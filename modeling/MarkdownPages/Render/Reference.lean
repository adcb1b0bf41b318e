import MarkdownPages.Document.Tree
import MarkdownPages.Files.Path
import MarkdownPages.Text.Split

/-!
# References between documents

A link or image whose destination is a markdown path refers to another document. What the
reference leads to is decided by a resolver, which is asked for paths below the roots only.

## Main definitions

* `markdownReference?` — a destination as a path and a fragment, if it names a document
* `ResolvedDocument`, `Reference` — what a destination leads to
* `Resolver` — the source of other documents, with whatever it remembers between lookups
-/

namespace MarkdownPages

/-- The scheme of a destination such as `mailto:` or `https:`: what stands before its first
colon, if no slash does. -/
def hasScheme (destination : List Char) : Bool :=
  match Text.cutFirst ':' destination with
  | some (scheme, _) => !scheme.contains '/'
  | none => false

/-- Whether a destination leaves the site whatever it names: a fragment of the same page, a host,
or anything with a scheme. -/
def isOutward (destination : List Char) : Bool :=
  ['#'].isPrefixOf destination || ['/', '/'].isPrefixOf destination ||
    Text.hasInfix [':', '/', '/'] destination || hasScheme destination

/-- The path and the fragment (with its `#`) of a destination that names a markdown document. -/
def markdownReference? (destination : List Char) : Option (List Char × Option (List Char)) :=
  if isOutward destination then none
  else
    let (path, fragment) := match Text.cutFirst '#' destination with
      | some (path, fragment) => (path, some ('#' :: fragment))
      | none => (destination, none)
    if ['.', 'm', 'd'].isSuffixOf path then some (path, fragment) else none

/-- The path to ask for when the document at `source` refers to `path`: a leading slash starts at
the root, any other path at the directory of the source. -/
def pathFromSource (source path : List Char) : List Char :=
  match path with
  | '/' :: rest => rest
  | _ =>
    match Text.cutLast '/' source with
    | some (directory, _) => directory ++ '/' :: path
    | none => path

/-- Another document, found by its path. -/
structure ResolvedDocument where
  /-- The path in the file system, which tells documents apart. -/
  path : Path
  /-- The path below the root that holds the document. -/
  relativePath : String
  tree : Node
deriving Inhabited

/-- What a destination leads to. -/
inductive Reference where
  /-- No document: another site, a fragment, an asset. -/
  | external
  | resolved (document : ResolvedDocument) (fragment : Option String)
  /-- A document that was not found. -/
  | unresolved
deriving Inhabited

/-- A source of documents. A lookup may change what the resolver remembers. -/
structure Resolver (σ : Type) where
  lookup : String → σ → Option ResolvedDocument × σ

namespace Resolver

variable {σ : Type}

/-- The resolver that finds nothing. -/
def nothing : Resolver σ := ⟨fun _ store => (none, store)⟩

/-- The resolver over documents with names: the first document of that name. -/
def ofNamed (documents : List (String × ResolvedDocument)) : Resolver σ :=
  ⟨fun name store => (documents.lookup name, store)⟩

/-- The same resolver, which also writes down what it is asked for, latest first. -/
def recording (resolver : Resolver σ) : Resolver (List String × σ) :=
  ⟨fun name (asked, store) =>
    let (found, store) := resolver.lookup name store
    (found, name :: asked, store)⟩

end Resolver

end MarkdownPages
