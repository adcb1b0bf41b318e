import MarkdownPages.Render.Reference
import MarkdownPages.Site.Slug
import MarkdownPages.Text.Ascending

/-!
# The context of a page

Everything that is gathered while one page is rendered: the imports it needs, the warnings, the
heading ids in use, and the chain of documents that are being embedded in one another.

## Main definitions

* `Context` — the state of one page
* `Context.addImport`, `Context.warn`, `Context.headingId` — what is gathered
* `Context.isRendering`, `Context.enter`, `Context.leave` — the chain of embedded documents
* `Context.resolve` — what a destination leads to, seen from the current document
-/

namespace MarkdownPages

/-- The state of rendering one page. -/
structure Context where
  package : String
  functionName : String
  /-- The group that shortcut names are relative to. -/
  group : String := ""
  /-- The imports gathered so far, in ascending order. -/
  imports : List String := []
  /-- The layout of documents that name none. -/
  defaultRoot : Option String := none
  /-- Whether the generated code may use the markdown runtime. -/
  markdownArtifact : Bool := false
  /-- The path below its root of the document being rendered. -/
  sourcePath : String := ""
  /-- The paths of the documents being rendered, innermost first. -/
  includeStack : List Path := []
  /-- How often each heading slug has been used. -/
  headingCounts : List (String × Nat) := []
  /-- The warnings so far, in order. -/
  warnings : List String := []
deriving Inhabited

namespace Context

/-! ### Gathering -/

/-- The context with one more import. A blank one is no import. -/
def addImport (context : Context) (target : String) : Context :=
  let target := Text.trimmed target
  if target.isEmpty then context
  else { context with imports := Ascending.insert target context.imports }

/-- The context with several more imports. -/
def addImports (context : Context) (targets : List String) : Context :=
  targets.foldl addImport context

/-- The context with one more warning. -/
def warn (context : Context) (message : String) : Context :=
  { context with warnings := context.warnings ++ [message] }

/-- The id of a heading with the given text, which is numbered from its second use on. -/
def headingId (context : Context) (text : String) : String × Context :=
  let base := Site.slug text
  let count := (Ascending.get? base context.headingCounts).getD 0
  (if count = 0 then base else base ++ "-" ++ toString count,
    { context with headingCounts := Ascending.put base (count + 1) context.headingCounts })

/-! ### Setting up -/

/-- The context with a default layout. A blank name is none. -/
def withDefaultRoot (context : Context) (root : Option String) : Context :=
  { context with defaultRoot := root.filter (!Text.isBlankText ·) }

/-- The context of the document at `relativePath`. Its path in the file system starts the chain
of embedded documents, so that a document that embeds itself is noticed. -/
def withSource (context : Context) (relativePath : String) (path : Option Path) : Context :=
  { context with
    sourcePath := relativePath
    includeStack := path.toList ++ context.includeStack }

/-! ### The chain of embedded documents -/

/-- Whether the document at `path` is being rendered. -/
def isRendering (context : Context) (path : Path) : Bool :=
  context.includeStack.any (·.same path)

/-- The context inside an embedded document. -/
def enter (context : Context) (document : ResolvedDocument) : Context :=
  { context with
    sourcePath := document.relativePath
    includeStack := document.path :: context.includeStack }

/-- The context after an embedded document, back in the document at `sourcePath`. -/
def leave (context : Context) (sourcePath : String) : Context :=
  { context with sourcePath := sourcePath, includeStack := context.includeStack.tail }

/-! ### References -/

/-- The warning about a reference that leads nowhere. -/
def unresolvedMessage (context : Context) (destination : String) : String :=
  "Unresolved markdown reference '" ++ destination ++ "' in " ++ context.sourcePath

/-- What a destination leads to, seen from the current document. A document that is not found is
warned about. -/
def resolve {σ : Type} (resolver : Resolver σ) (destination : String) (context : Context)
    (store : σ) : Reference × Context × σ :=
  match markdownReference? destination.toList with
  | none => (.external, context, store)
  | some (path, fragment) =>
    let target := String.ofList (pathFromSource context.sourcePath.toList path)
    match resolver.lookup target store with
    | (some document, store) =>
      (.resolved document (fragment.map String.ofList), context, store)
    | (none, store) =>
      (.unresolved, context.warn (context.unresolvedMessage destination), store)

end Context

end MarkdownPages
