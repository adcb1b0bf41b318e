import MarkdownPages.Kotlin.Identifier
import MarkdownPages.Render.Elements
import MarkdownPages.Render.Scope

/-!
# Pages

A page is a source file that declares one function. Its body is the rendered document, wrapped in
the layout that the front matter or the project names and, if the markdown runtime is at hand, in
a call that hands the front matter to it.

## Main definitions

* `Page` — the source of a page and the warnings about it
* `Page.wrappers` — the calls around the body, outermost first
* `Page.render` — the page of a document
-/

namespace MarkdownPages

/-- The imports of every page. -/
def baseImports : List String :=
  ["androidx.compose.runtime.Composable", "com.varabyte.kobweb.core.Page"]

/-- The imports of a page that hands its front matter to the markdown runtime. -/
def markdownContextImports : List String :=
  ["androidx.compose.runtime.CompositionLocalProvider",
    "com.varabyte.kobwebx.markdown.LocalMarkdownContext",
    "com.varabyte.kobwebx.markdown.MarkdownContext"]

/-- A rendered page. -/
structure Page where
  /-- The whole source file. -/
  source : String
  warnings : List String
deriving DecidableEq, Repr

namespace Page

/-- One key of the front matter with its values, as an entry of a map. -/
def dataEntry (key : String) (values : List String) : String :=
  Kotlin.quoted key ++ " to listOf(" ++ ", ".intercalate (values.map Kotlin.quoted) ++ ")"

/-- The call that hands the path of the document and its front matter to the runtime. -/
def markdownContextCall (path : String) (frontMatter : FrontMatter) : String :=
  "CompositionLocalProvider(LocalMarkdownContext provides MarkdownContext(" ++
    Kotlin.quoted path ++ ", mapOf(" ++
    ", ".intercalate (frontMatter.data.map fun (key, values) => dataEntry key values) ++ ")))"

/-- The qualified name of the layout of a page, if it has one: an empty name is none. -/
def layout? (frontMatter : FrontMatter) (context : Context) : Option String :=
  let root := match frontMatter.root with
    | some root => some (Text.trimmed root)
    | none => context.defaultRoot
  (root.filter (!·.isEmpty)).map (Kotlin.resolveShortcut context.group)

/-- The last part of a qualified name. -/
def simpleName (qualified : String) : String :=
  match Text.cutLast '.' qualified.toList with
  | some (_, name) => String.ofList name
  | none => qualified

/-- The calls around the body, outermost first, and the context with their imports. -/
def wrappers (frontMatter : FrontMatter) (context : Context) : List String × Context :=
  let (outer, context) :=
    if context.markdownArtifact then
      ([markdownContextCall context.sourcePath frontMatter],
        context.addImports markdownContextImports)
    else ([], context)
  match layout? frontMatter context with
  | none => (outer, context)
  | some qualified =>
    let name := simpleName qualified
    (outer ++ [name], if qualified = name then context else context.addImport qualified)

/-- The body inside the calls around it, the first of which stands at `depth`. -/
def wrapBody (body : String) (depth : Nat) : List String → String
  | [] => body
  | call :: inner =>
    let content := wrapBody body (depth + 1) inner
    if content.isEmpty then lineAt depth (call ++ " \x7b\x7d")
    else lineAt depth (call ++ " \x7b") ++ content ++ lineAt depth "\x7d"

/-- The source file around the contents of the page function. -/
def assemble (context : Context) (content : String) : String :=
  let packageLine :=
    if context.package.isEmpty then "" else "package " ++ context.package ++ "\n\n"
  packageLine ++ String.join (context.imports.map fun target => "import " ++ target ++ "\n") ++
    "\n@Page\n@Composable\nfun " ++ context.functionName ++ "() \x7b\n" ++ content ++ "\x7d\n"

/-- The page of a document, by the handlers of a table. -/
def render {σ : Type} (table : HandlerTable) (resolver : Resolver σ) (documents : Nat)
    (tree : Node) (context : Context) (store : σ) : Page × Context × σ :=
  let frontMatter := tree.frontMatter?.getD {}
  let context := context.addImports (baseImports ++ frontMatter.imports)
  let (calls, context) := wrappers frontMatter context
  let scope : Scope σ := { context := context, depth := calls.length + 1, store := store }
  let (body, after) := table.render resolver documents tree scope
  ({ source := assemble after.context (wrapBody body 1 calls)
     warnings := after.context.warnings }, after.context, after.store)

end Page

end MarkdownPages
