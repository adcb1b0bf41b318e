import MarkdownPages.Document.Event
import MarkdownPages.Markup.Blocks
import MarkdownPages.Markup.Emphasis

/-!
# A document as events

## Main definitions

* `Inline.events`, `Block.events` — the events of a piece of a document
* `documentEvents` — the events of a text
-/

namespace MarkdownPages

namespace Markup

/-- The tag of a style. -/
def Style.tag : Style → Tag
  | .emphasis => .emphasis
  | .strong => .strong
  | .strikethrough => .strikethrough
  | .superscript => .superscript
  | .subscript => .subscript

/-- Events inside a construct. -/
def within (tag : Tag) (events : List Event) : List Event :=
  .start tag :: events ++ [.finish tag]

mutual

/-- The events of a piece of inline markup. -/
def Inline.events : Inline → List Event
  | .text chars => [.text (String.ofList chars)]
  | .run mark _ length _ _ => [.text (String.ofList (List.replicate length mark))]
  | .code literal => [.code literal]
  | .html literal => [.inlineHtml literal]
  | .math display literal => [.math display literal]
  | .footnote label => [.footnoteReference label]
  | .softBreak => [.softBreak]
  | .hardBreak _ => [.hardBreak]
  | .link isImage destination title children =>
    let tag := if isImage then Tag.image destination title else Tag.link destination title
    within tag (Inline.eventsAll children)
  | .styled style children => within style.tag (Inline.eventsAll children)

/-- The events of several pieces. -/
def Inline.eventsAll : List Inline → List Event
  | [] => []
  | piece :: rest => Inline.events piece ++ Inline.eventsAll rest

end

/-- The events of the text of a block. -/
def Source.events (features : Features) (references : References) (source : Source) :
    List Event :=
  Inline.eventsAll (source.markup features references)

/-- The tag of a container; a document has none. -/
def Container.tag? : Container → Option Tag
  | .document => none
  | .quote => some .blockQuote
  | .list _ _ number => some (.list number)
  | .item _ => some .item
  | .footnote label => some (.footnoteDefinition label)
  | .definitionList _ => some .definitionList
  | .definition _ => some .definitionListDefinition

mutual

/-- The events of a block. -/
def Block.events (features : Features) (references : References) : Block → List Event
  | .paragraph tight source =>
    let text := source.events features references
    if tight then text else within .paragraph text
  | .possibleTitle source => within .paragraph (source.events features references)
  | .title source => within .definitionListTitle (source.events features references)
  | .heading level id source => within (.heading level id) (source.events features references)
  | .code info literal => within (.codeBlock info) [.text literal]
  | .html literal => within .htmlBlock [.html literal]
  | .metadata literal => within .metadata [.text literal]
  | .rule => [.rule]
  | .task checked => [.taskListMarker checked]
  | .table head rows =>
    let cells := fun (row : List Source) =>
      row.flatMap fun cell => within .tableCell (cell.events features references)
    within .table <|
      within .tableHead (cells head) ++ rows.flatMap fun row => within .tableRow (cells row)
  | .container kind children =>
    let inner := Block.eventsAll features references children
    match kind.tag? with
    | some tag => within tag inner
    | none => inner

/-- The events of several blocks. -/
def Block.eventsAll (features : Features) (references : References) : List Block → List Event
  | [] => []
  | block :: rest =>
    Block.events features references block ++ Block.eventsAll features references rest

end

/-- The events of a text. -/
def documentEvents (features : Features) (text : String) : List Event :=
  let outline := Outline.ofText features text.toList
  let references : References := ⟨outline.definitions, outline.footnotes⟩
  Block.eventsAll features references outline.top.reversed.reverse

end Markup

end MarkdownPages
