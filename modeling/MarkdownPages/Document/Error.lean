/-!
# Why a document is refused

## Main definitions

* `FrontMatterProblem` — a front matter that reads as data but is not acceptable
* `DocumentError`, `DocumentError.message` — every reason, and how it is told
-/

namespace MarkdownPages

/-- Why readable front matter is not acceptable. -/
inductive FrontMatterProblem where
  /-- A list under the key holds something that is not a scalar. -/
  | nestedItem (key : String)
  /-- The value of the key is neither a scalar nor a list. -/
  | notFlat (key : String)
  | severalRoots
  | badRoot (root : String)
  | badImport (target : String)
deriving DecidableEq, Repr

namespace FrontMatterProblem

/-- How a problem is told. -/
def message : FrontMatterProblem → String
  | nestedItem key => "'" ++ key ++ "' must contain only scalars"
  | notFlat key => "'" ++ key ++ "' must be a scalar or a list"
  | severalRoots => "'root' must be a single name"
  | badRoot root => "'root' must be a dotted name of identifiers, got '" ++ root ++ "'"
  | badImport target => "'imports' entries must be qualified names, got '" ++ target ++ "'"

end FrontMatterProblem

/-- Why a document is refused. -/
inductive DocumentError where
  /-- The front matter does not read as a mapping with names for keys. -/
  | frontMatterSyntax
  | frontMatterShape (problem : FrontMatterProblem)
  /-- Starts and ends do not match. -/
  | unbalanced
deriving DecidableEq, Repr

namespace DocumentError

/-- How the refusal of a document is told. What a reader of the data notation has to say about
its syntax is not part of the message. -/
def message : DocumentError → String
  | frontMatterSyntax => "invalid front matter: "
  | frontMatterShape problem => "invalid front matter: " ++ problem.message
  | unbalanced => "unbalanced markdown structure"

end DocumentError

end MarkdownPages
