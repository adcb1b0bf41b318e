import MarkdownPages.Render.Rendering
import MarkdownPages.Site.Route
import MarkdownPages.Text.Blank

/-!
# Documents as page elements

The handlers that turn each kind of node into calls of page elements. Every call of an element
gathers the import of that element. A link to another document becomes a navigation link to the
route of its page, and an image of another document is replaced by the contents of that document.

## Main definitions

* `silkLink` — the navigation link
* `HandlerTable.elements` — the handlers of all kinds
-/

namespace MarkdownPages

/-- The navigation link that is used for links to other documents. -/
def silkLink : String := "com.varabyte.kobweb.silk.components.navigation.Link"

namespace Elements

open Rendering

/-! ### Calls -/

/-- A call with an attribute block. -/
def withAttributes (name attributes : String) : String :=
  name ++ "(attrs = \x7b " ++ attributes ++ " \x7d)"

/-- A call of a function on one text. -/
def callOn (name argument : String) : String := name ++ "(" ++ Kotlin.quoted argument ++ ")"

/-- Gathers the import of an element. -/
def needing (name : String) (next : Rendering) : Rendering := addImport (domImport name) next

/-- An element that holds the children of the node. -/
def element (name : String) : Handler := fun node => needing name <| block name node

/-- An element without contents. -/
def emptyElement (name : String) : Handler := fun _ => needing name <| line (name ++ "()")

/-- Whether a node is an image that stands for another document. -/
def isEmbed (node : Node) : Bool :=
  match node.value with
  | .image destination _ => (markdownReference? destination.toList).isSome
  | _ => false

/-! ### Blocks -/

/-- A paragraph, unless it holds nothing but another document, which then takes its place. -/
def paragraph : Handler := fun node =>
  match node.children with
  | [child] => if isEmbed child then render child output else element "P" node
  | _ => element "P" node

/-- A heading with its id, which is made from its text if the document gives none. -/
def heading : Handler := fun node =>
  match node.value with
  | .heading level id =>
    let name := "H" ++ toString level
    let withId (id : String) : Rendering :=
      if id.isEmpty then block name node
      else block (withAttributes name (callOn "id" id)) node
    needing name <| match id with
      | some id => withId id
      | none => headingId node.plainText withId
  | _ => renderChildren node output

/-- The text of a code block, in an element that names its language. -/
def codeBlock : Handler := fun node =>
  match node.value with
  | .codeBlock language literal =>
    let code := match language with
      | some language => withAttributes "Code" (callOn "classes" ("language-" ++ language))
      | none => "Code"
    needing "Pre" <| needing "Code" <| wrap "Pre" (wrap code (textCall literal))
  | _ => renderChildren node output

/-- Raw HTML, which a container shows as it is. Blank HTML is left out. -/
def rawHtml (container : String) : Handler := fun node =>
  let html := node.literal?.getD ""
  if Text.isBlankText html then output ""
  else
    needing container <| line <| withAttributes container <|
      "ref \x7b it.innerHTML = " ++ Kotlin.quoted (Text.trimmedEnd html) ++
        "; onDispose \x7b\x7d \x7d"

/-- A list; one whose first number is not one says so. -/
def list : Handler := fun node =>
  match node.value with
  | .list (some 1) => element "Ol" node
  | .list (some start) =>
    needing "Ol" <|
      block (withAttributes "Ol" ("attr(\"start\", \"" ++ toString start ++ "\")")) node
  | _ => element "Ul" node

/-- A check box that cannot be changed. -/
def taskListMarker : Handler := fun node =>
  let checked := match node.value with
    | .taskListMarker true => "true"
    | _ => "false"
  needing "CheckboxInput" <|
    line ("CheckboxInput(checked = " ++ checked ++ ", attrs = \x7b disabled() \x7d)")

/-! ### Tables -/

/-- A table: first its heads, then its other rows in a body, if there are any. -/
def table : Handler := fun node =>
  let heads := node.children.filter fun child => child.kind = .tableHead
  let rows := node.children.filter fun child => child.kind ≠ .tableHead
  needing "Table" <| wrap "Table" <| renderAll heads fun head =>
    if rows.isEmpty then output head
    else needing "Tbody" <| wrap "Tbody" (renderAll rows) fun body => output (head ++ body)

/-- The head of a table, which is one row. -/
def tableHead : Handler := fun node =>
  needing "Thead" <| needing "Tr" <| wrap "Thead" (block "Tr" node)

/-- A cell, which is a heading anywhere inside a table head. -/
def tableCell : Handler := fun node =>
  look fun surroundings =>
    element (if surroundings.inside .tableHead then "Th" else "Td") node

/-! ### Inline elements -/

/-- Code in a line of text. -/
def code : Handler := fun node =>
  needing "Code" <| wrap "Code" (textCall (node.literal?.getD ""))

/-- A formula, shown as text in a container with a class. -/
def math : Handler := fun node =>
  match node.value with
  | .math display literal =>
    let (container, className) :=
      if display then ("Div", "math-display") else ("Span", "math-inline")
    needing container <|
      wrap (withAttributes container (callOn "classes" className)) (textCall literal)
  | _ => renderChildren node output

/-- An anchor for a destination outside the site. -/
def anchorCall (destination title : String) : String :=
  "A(href = " ++ Kotlin.quoted destination ++
    (if title.isEmpty then ")" else ", attrs = \x7b " ++ callOn "title" title ++ " \x7d)")

/-- A link: to the page of another document, or else an anchor. -/
def link : Handler := fun node =>
  match node.value with
  | .link destination title =>
    resolve destination fun
      | .resolved document fragment =>
        addImport silkLink <|
          block (callOn "Link" (Site.route document.relativePath ++ fragment.getD "")) node
      | _ => needing "A" <| block (anchorCall destination title) node
  | _ => renderChildren node output

/-- An image of something outside the site. -/
def imageCall (destination alternative title : String) : String :=
  "Img(src = " ++ Kotlin.quoted destination ++ ", alt = " ++ Kotlin.quoted alternative ++
    (if title.isEmpty then "" else ", attrs = \x7b " ++ callOn "title" title ++ " \x7d") ++ ")"

/-- The warning about a document that would be embedded in itself. -/
def cycleMessage (destination sourcePath : String) : String :=
  "Cyclic markdown embed '" ++ destination ++ "' in " ++ sourcePath

/-- An image: the contents of another document in its place, or its own text if that document is
missing or being rendered already, or else an image element. -/
def image : Handler := fun node =>
  match node.value with
  | .image destination title =>
    let alternative := node.plainText
    let asWritten := textCall ("![" ++ alternative ++ "](" ++ destination ++ ")")
    resolve destination fun
      | .resolved document _ =>
        embed document fun
          | some body => output body
          | none =>
            look fun surroundings =>
              warn (cycleMessage destination surroundings.context.sourcePath) asWritten
      | .unresolved => asWritten
      | .external => needing "Img" <| line (imageCall destination alternative title)
  | _ => renderChildren node output

/-! ### Footnotes -/

/-- The contents of a footnote, in a container that references can lead to. -/
def footnoteDefinition : Handler := fun node =>
  match node.value with
  | .footnoteDefinition label =>
    needing "Div" <|
      block (withAttributes "Div" (callOn "id" ("fn-" ++ label) ++ "; classes(\"footnote\")")) node
  | _ => renderChildren node output

/-- A raised link to a footnote. -/
def footnoteReference : Handler := fun node =>
  match node.value with
  | .footnoteReference label =>
    needing "Sup" <| needing "A" <|
      wrap "Sup" (wrap ("A(href = " ++ Kotlin.quoted ("#fn-" ++ label) ++ ")") (textCall label))
  | _ => output ""

end Elements

namespace HandlerTable

/-- The handler of each kind of node. -/
def elementHandler : NodeKind → Handler
  | .document => fun node => .renderChildren node .output
  | .frontMatter => fun _ => .output ""
  | .paragraph => Elements.paragraph
  | .heading => Elements.heading
  | .blockQuote => Elements.element "Blockquote"
  | .codeBlock => Elements.codeBlock
  | .htmlBlock => Elements.rawHtml "Div"
  | .list => Elements.list
  | .item => Elements.element "Li"
  | .taskListMarker => Elements.taskListMarker
  | .table => Elements.table
  | .tableHead => Elements.tableHead
  | .tableRow => Elements.element "Tr"
  | .tableCell => Elements.tableCell
  | .emphasis => Elements.element "Em"
  | .strong => Elements.element "B"
  | .strikethrough => Elements.element "S"
  | .superscript => Elements.element "Sup"
  | .subscript => Elements.element "Sub"
  | .link => Elements.link
  | .image => Elements.image
  | .text => fun node => .textCall (node.literal?.getD "")
  | .code => Elements.code
  | .html => Elements.rawHtml "Span"
  | .math => Elements.math
  | .softBreak => fun _ => .textCall " "
  | .hardBreak => Elements.emptyElement "Br"
  | .rule => Elements.emptyElement "Hr"
  | .footnoteDefinition => Elements.footnoteDefinition
  | .footnoteReference => Elements.footnoteReference
  | .definitionList => Elements.element "Dl"
  | .definitionListTitle => Elements.element "Dt"
  | .definitionListDefinition => Elements.element "Dd"

/-- The table that renders every kind of node by page elements. -/
def elements : HandlerTable := ⟨fun kind => some (elementHandler kind), plainFallback⟩

end HandlerTable

end MarkdownPages
