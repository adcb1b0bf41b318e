/-!
# Document events

A document read from text arrives as a sequence of events: the start and the end of every
construct with contents, and the constructs without contents between them.

## Main definitions

* `Tag` — a construct with contents
* `Event` — one step of the sequence
-/

namespace MarkdownPages

/-- A construct with contents. -/
inductive Tag where
  | paragraph
  | heading (level : Nat) (id : Option String)
  | blockQuote
  /-- A code block, with the text after the fence if it is a fenced one. -/
  | codeBlock (info : Option String)
  | htmlBlock
  | list (start : Option Nat)
  | item
  | footnoteDefinition (label : String)
  | definitionList
  | definitionListTitle
  | definitionListDefinition
  | table
  | tableHead
  | tableRow
  | tableCell
  | emphasis
  | strong
  | strikethrough
  | superscript
  | subscript
  | link (destination title : String)
  | image (destination title : String)
  /-- A data block at the start of a document. -/
  | metadata
deriving DecidableEq, Inhabited, Repr

/-- One step through a document. -/
inductive Event where
  | start (tag : Tag)
  | finish (tag : Tag)
  | text (literal : String)
  /-- A piece of an HTML block. -/
  | html (literal : String)
  /-- HTML inside a line of text. -/
  | inlineHtml (literal : String)
  | code (literal : String)
  | math (display : Bool) (literal : String)
  | footnoteReference (label : String)
  | softBreak
  | hardBreak
  | rule
  | taskListMarker (checked : Bool)
deriving DecidableEq, Inhabited, Repr

end MarkdownPages
