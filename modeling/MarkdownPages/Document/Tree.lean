/-!
# Document trees

A markdown document is a tree. Every node has a value, which says what construct it stands for
and carries its data, and children. The kind of a node is its value without the data.

## Main definitions

* `FrontMatter` — the data block at the start of a document
* `NodeValue`, `NodeKind`, `NodeValue.kind` — what a node stands for
* `Node`, `Node.literal?`, `Node.plainText`, `Node.frontMatter?`

## Implementation notes

Any value may have any children: which children mean something is decided where a tree is read.
-/

namespace MarkdownPages

/-- The front matter of a document. -/
structure FrontMatter where
  /-- The layout around the page. An empty name turns the default layout off. -/
  root : Option String := none
  /-- Additional imports of the generated file. -/
  imports : List String := []
  /-- Every key with its values, in ascending order of the keys. -/
  data : List (String × List String) := []
deriving DecidableEq, Inhabited, Repr

/-- What a node stands for. -/
inductive NodeValue where
  | document
  | frontMatter (frontMatter : FrontMatter)
  | paragraph
  /-- A heading, with its id if the text gives one. -/
  | heading (level : Nat) (id : Option String)
  | blockQuote
  | codeBlock (language : Option String) (literal : String)
  | htmlBlock (literal : String)
  /-- A list: ordered, with the number of its first item, or else a bullet list. -/
  | list (start : Option Nat)
  | item
  | taskListMarker (checked : Bool)
  | table
  | tableHead
  | tableRow
  | tableCell
  | emphasis
  | strong
  | strikethrough
  | superscript
  | subscript
  | link (destination title : String)
  | image (destination title : String)
  | text (literal : String)
  | code (literal : String)
  | html (literal : String)
  | math (display : Bool) (literal : String)
  | softBreak
  | hardBreak
  | rule
  | footnoteDefinition (label : String)
  | footnoteReference (label : String)
  | definitionList
  | definitionListTitle
  | definitionListDefinition
deriving DecidableEq, Inhabited, Repr

/-- The kinds of nodes. -/
inductive NodeKind where
  | document
  | frontMatter
  | paragraph
  | heading
  | blockQuote
  | codeBlock
  | htmlBlock
  | list
  | item
  | taskListMarker
  | table
  | tableHead
  | tableRow
  | tableCell
  | emphasis
  | strong
  | strikethrough
  | superscript
  | subscript
  | link
  | image
  | text
  | code
  | html
  | math
  | softBreak
  | hardBreak
  | rule
  | footnoteDefinition
  | footnoteReference
  | definitionList
  | definitionListTitle
  | definitionListDefinition
deriving DecidableEq, Inhabited, Repr

namespace NodeKind

/-- Every kind, with the name it is shown by. -/
def names : List (NodeKind × String) :=
  [(.document, "Document"), (.frontMatter, "FrontMatter"), (.paragraph, "Paragraph"),
    (.heading, "Heading"), (.blockQuote, "BlockQuote"), (.codeBlock, "CodeBlock"),
    (.htmlBlock, "HtmlBlock"), (.list, "List"), (.item, "Item"),
    (.taskListMarker, "TaskListMarker"), (.table, "Table"), (.tableHead, "TableHead"),
    (.tableRow, "TableRow"), (.tableCell, "TableCell"), (.emphasis, "Emphasis"),
    (.strong, "Strong"), (.strikethrough, "Strikethrough"), (.superscript, "Superscript"),
    (.subscript, "Subscript"), (.link, "Link"), (.image, "Image"), (.text, "Text"),
    (.code, "Code"), (.html, "Html"), (.math, "Math"), (.softBreak, "SoftBreak"),
    (.hardBreak, "HardBreak"), (.rule, "Rule"), (.footnoteDefinition, "FootnoteDefinition"),
    (.footnoteReference, "FootnoteReference"), (.definitionList, "DefinitionList"),
    (.definitionListTitle, "DefinitionListTitle"),
    (.definitionListDefinition, "DefinitionListDefinition")]

/-- The name of a kind. -/
def name (kind : NodeKind) : String := (names.lookup kind).getD ""

/-- The kind of a name. -/
def ofName? (name : String) : Option NodeKind :=
  (names.find? (fun entry => entry.2 == name)).map (·.1)

theorem mem_names (kind : NodeKind) : (kind, kind.name) ∈ names := by
  cases kind <;> decide

end NodeKind

namespace NodeValue

/-- The kind of a value. -/
def kind : NodeValue → NodeKind
  | document => .document
  | frontMatter _ => .frontMatter
  | paragraph => .paragraph
  | heading _ _ => .heading
  | blockQuote => .blockQuote
  | codeBlock _ _ => .codeBlock
  | htmlBlock _ => .htmlBlock
  | list _ => .list
  | item => .item
  | taskListMarker _ => .taskListMarker
  | table => .table
  | tableHead => .tableHead
  | tableRow => .tableRow
  | tableCell => .tableCell
  | emphasis => .emphasis
  | strong => .strong
  | strikethrough => .strikethrough
  | superscript => .superscript
  | subscript => .subscript
  | link _ _ => .link
  | image _ _ => .image
  | text _ => .text
  | code _ => .code
  | html _ => .html
  | math _ _ => .math
  | softBreak => .softBreak
  | hardBreak => .hardBreak
  | rule => .rule
  | footnoteDefinition _ => .footnoteDefinition
  | footnoteReference _ => .footnoteReference
  | definitionList => .definitionList
  | definitionListTitle => .definitionListTitle
  | definitionListDefinition => .definitionListDefinition

end NodeValue

/-- A node of a document tree. -/
structure Node where
  value : NodeValue
  children : List Node
deriving Inhabited, Repr

namespace Node

/-- A node without children. -/
def leaf (value : NodeValue) : Node := ⟨value, []⟩

/-- The kind of a node. -/
def kind (node : Node) : NodeKind := node.value.kind

/-- The text that a node carries itself: text, code, raw markup and formulas have one. -/
def literal? (node : Node) : Option String :=
  match node.value with
  | .text literal | .code literal | .html literal | .htmlBlock literal
  | .codeBlock _ literal | .math _ literal => some literal
  | _ => none

mutual

/-- The text of a node without markup: text and code of all descendants in order, with a space
for each line break. -/
def plainText : Node → String
  | ⟨value, children⟩ =>
    match value with
    | .text literal | .code literal => literal
    | .softBreak | .hardBreak => " "
    | _ => plainTextAll children

/-- The texts of several nodes, one after the other. -/
def plainTextAll : List Node → String
  | [] => ""
  | node :: rest => plainText node ++ plainTextAll rest

end

/-- The front matter of a document: its first child, if that is a front matter. -/
def frontMatter? (node : Node) : Option FrontMatter :=
  match node.children with
  | ⟨.frontMatter frontMatter, _⟩ :: _ => some frontMatter
  | _ => none

mutual

/-- The number of nodes on the longest way down from a node. -/
def height : Node → Nat
  | ⟨_, children⟩ => heightAll children + 1

/-- The greatest height of several nodes. -/
def heightAll : List Node → Nat
  | [] => 0
  | node :: rest => max (height node) (heightAll rest)

end

end Node

end MarkdownPages
