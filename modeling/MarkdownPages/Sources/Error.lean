import MarkdownPages.Document.Error
import MarkdownPages.Files.Fault
import MarkdownPages.Files.Path

/-!
# Why a document cannot be had

## Main definitions

* `SourceError`, `SourceError.message` — every reason, and how it is told
-/

namespace MarkdownPages

/-- Why a root or a document cannot be used. -/
inductive SourceError where
  | root (path : Path) (fault : Fault)
  | outsideRoots (path : Path)
  | read (path : Path) (fault : Fault)
  | parse (path : Path) (error : DocumentError)
deriving DecidableEq, Repr

namespace SourceError

/-- How the reason is told. -/
def message : SourceError → String
  | root path fault => "invalid root " ++ path.text.shown ++ ": " ++ fault.message
  | outsideRoots path => path.text.shown ++ " is outside all configured roots"
  | read path fault => "failed to read " ++ path.text.shown ++ ": " ++ fault.message
  | parse path error => "failed to parse " ++ path.text.shown ++ ": " ++ error.message

end SourceError

end MarkdownPages
