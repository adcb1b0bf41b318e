import MarkdownPages.Document.Error
import MarkdownPages.Document.Event
import MarkdownPages.Document.Tree
import MarkdownPages.Text.Blank

/-!
# Building a tree from events

The builder keeps the nodes whose end has not been seen, innermost first. Neighbouring texts
become one text node, text inside a code block or an HTML block goes to its literal, and the text
of a data block is collected and read when the block ends.

## Main definitions

* `Builder` — the open nodes and the data text collected so far
* `Builder.event` — one more event
* `Builder.ofEvents` — the tree of a sequence of events

## Implementation notes

The children of an open node are kept in reverse, so that every event adds at the front.
-/

namespace MarkdownPages

/-- A node whose end has not been seen, with its children in reverse. -/
structure OpenNode where
  value : NodeValue
  reversed : List Node := []
deriving Inhabited, Repr

namespace OpenNode

/-- The node, ended here. -/
def close (o : OpenNode) : Node := ⟨o.value, o.reversed.reverse⟩

/-- The node with one more child. -/
def push (o : OpenNode) (child : Node) : OpenNode := { o with reversed := child :: o.reversed }

/-- The node with more text, which joins a text that came just before. -/
def addText (o : OpenNode) (text : String) : OpenNode :=
  match o.value with
  | .codeBlock language literal => { o with value := .codeBlock language (literal ++ text) }
  | .htmlBlock literal => { o with value := .htmlBlock (literal ++ text) }
  | _ =>
    match o.reversed with
    | ⟨.text previous, children⟩ :: rest =>
      { o with reversed := ⟨.text (previous ++ text), children⟩ :: rest }
    | _ => o.push (Node.leaf (.text text))

/-- The node with more raw markup: inside an HTML block it is part of the literal. -/
def addHtml (o : OpenNode) (html : String) : OpenNode :=
  match o.value with
  | .htmlBlock literal => { o with value := .htmlBlock (literal ++ html) }
  | _ => o.push (Node.leaf (.html html))

end OpenNode

/-- The value of the node that a tag starts. -/
def Tag.value : Tag → NodeValue
  | paragraph => .paragraph
  | heading level id => .heading level id
  | blockQuote => .blockQuote
  | codeBlock info =>
    .codeBlock (info.bind fun text => (Text.firstWord text.toList).map String.ofList) ""
  | htmlBlock => .htmlBlock ""
  | list start => .list start
  | item => .item
  | footnoteDefinition label => .footnoteDefinition label
  | definitionList => .definitionList
  | definitionListTitle => .definitionListTitle
  | definitionListDefinition => .definitionListDefinition
  | table => .table
  | tableHead => .tableHead
  | tableRow => .tableRow
  | tableCell => .tableCell
  | emphasis => .emphasis
  | strong => .strong
  | strikethrough => .strikethrough
  | superscript => .superscript
  | subscript => .subscript
  | link destination title => .link destination title
  | image destination title => .image destination title
  | metadata => .frontMatter {}

/-- The state of building a tree. -/
structure Builder where
  /-- The innermost open node. -/
  top : OpenNode
  /-- The open nodes around it, innermost first. -/
  outer : List OpenNode
  /-- The text of the data block that is open. -/
  metadata : Option String
deriving Inhabited

namespace Builder

/-- The builder of an empty document. -/
def empty : Builder := { top := { value := .document }, outer := [], metadata := none }

/-- One more child for the innermost open node. -/
def push (b : Builder) (child : Node) : Builder := { b with top := b.top.push child }

/-- The end of the innermost open node. The document itself is never ended by an event. -/
def close (readFrontMatter : String → Except DocumentError FrontMatter) (tag : Tag) (b : Builder) :
    Except DocumentError Builder :=
  match b.outer with
  | [] => .error .unbalanced
  | parent :: outer =>
    if tag = .metadata then do
      let frontMatter ← readFrontMatter (b.metadata.getD "")
      let node := { b.top with value := .frontMatter frontMatter }.close
      return { top := parent.push node, outer := outer, metadata := none }
    else
      .ok { b with top := parent.push b.top.close, outer := outer }

/-- The builder after one more event. -/
def event (readFrontMatter : String → Except DocumentError FrontMatter) (b : Builder) :
    Event → Except DocumentError Builder
  | .start tag =>
    .ok { top := { value := tag.value }
          outer := b.top :: b.outer
          metadata := if tag = .metadata then some "" else b.metadata }
  | .finish tag => b.close readFrontMatter tag
  | .text literal =>
    .ok <| match b.metadata with
      | some collected => { b with metadata := some (collected ++ literal) }
      | none => { b with top := b.top.addText literal }
  | .html literal => .ok { b with top := b.top.addHtml literal }
  | .inlineHtml literal => .ok (b.push (Node.leaf (.html literal)))
  | .code literal => .ok (b.push (Node.leaf (.code literal)))
  | .math display literal => .ok (b.push (Node.leaf (.math display literal)))
  | .footnoteReference label => .ok (b.push (Node.leaf (.footnoteReference label)))
  | .softBreak => .ok (b.push (Node.leaf .softBreak))
  | .hardBreak => .ok (b.push (Node.leaf .hardBreak))
  | .rule => .ok (b.push (Node.leaf .rule))
  | .taskListMarker checked => .ok (b.push (Node.leaf (.taskListMarker checked)))

/-- The tree, once every open node but the document has ended. -/
def tree (b : Builder) : Except DocumentError Node :=
  if b.outer.isEmpty then .ok b.top.close else .error .unbalanced

/-- The builder after a sequence of events. -/
def run (readFrontMatter : String → Except DocumentError FrontMatter) (b : Builder)
    (events : List Event) : Except DocumentError Builder :=
  events.foldlM (event readFrontMatter) b

/-- The tree of a sequence of events. -/
def ofEvents (readFrontMatter : String → Except DocumentError FrontMatter) (events : List Event) :
    Except DocumentError Node := do
  (← empty.run readFrontMatter events).tree

end Builder

end MarkdownPages
