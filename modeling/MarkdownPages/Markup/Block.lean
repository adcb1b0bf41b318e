import MarkdownPages.Markup.Destination

/-!
# Blocks

A document is made of blocks: containers, which hold other blocks, and leaves, some of which hold
text whose inline markup has not been read yet.

## Main definitions

* `Container` — the kinds of containers
* `Block` — a block
* `Outline` — the blocks read so far, with the containers that are open
* `Outline.close`, `Outline.finishList`, `Outline.continueList` — how containers end
-/

namespace MarkdownPages

namespace Markup

/-- A block that holds blocks. -/
inductive Container where
  | document
  | quote
  /-- A list: tight as long as no blank line stands between its items or their blocks. -/
  | list (tight : Bool) (mark : Char) (number : Option Nat)
  /-- An item, whose blocks are indented by some columns. -/
  | item (indent : Nat)
  | footnote (label : String)
  | definitionList (tight : Bool)
  | definition (indent : Nat)
deriving Inhabited, Repr

/-- A block. -/
inductive Block where
  /-- A paragraph; a tight one is shown without its frame. -/
  | paragraph (tight : Bool) (text : Source)
  /-- A paragraph after a definition, which is the next term if another definition follows. -/
  | possibleTitle (text : Source)
  | title (text : Source)
  | heading (level : Nat) (id : Option String) (text : Source)
  /-- A code block, with what follows the fence if it is a fenced one. -/
  | code (info : Option String) (literal : String)
  | html (literal : String)
  | metadata (literal : String)
  | rule
  | task (checked : Bool)
  | table (head : List Source) (rows : List (List Source))
  | container (kind : Container) (children : List Block)
deriving Inhabited, Repr

/-- A container that is open, with its blocks in reverse. -/
structure Frame where
  kind : Container
  reversed : List Block := []
deriving Inhabited

/-- The blocks read so far. -/
structure Outline where
  /-- The innermost open container. -/
  top : Frame
  /-- The open containers around it, innermost first. -/
  outer : List Frame := []
  /-- Whether the last line was blank. -/
  afterBlank : Bool := false
  /-- Whether nothing has followed the mark of the innermost item. -/
  emptyItem : Bool := false
  /-- What labels stand for, by their keys. -/
  definitions : List (List Char × Definition) := []
  /-- The keys of the labels of footnotes. -/
  footnotes : List (List Char) := []
deriving Inhabited

/-- The block with its paragraphs, if it holds any directly, without frames. -/
def Block.tighten : Block → Block
  | .container kind children =>
    .container kind <| children.map fun
      | .paragraph _ text => .paragraph true text
      | child => child
  | block => block

namespace Outline

/-- Nothing has been read. -/
def empty : Outline := { top := { kind := .document } }

/-- The outline with one more block in its innermost container. -/
def append (o : Outline) (block : Block) : Outline :=
  { o with top := { o.top with reversed := block :: o.top.reversed } }

/-- The outline with one more open container. -/
def openContainer (o : Outline) (kind : Container) : Outline :=
  { o with top := { kind := kind }, outer := o.top :: o.outer }

/-- The kinds of the open containers, outermost first, without the document. -/
def containers (o : Outline) : List Container :=
  ((o.top :: o.outer).reverse.drop 1).map (·.kind)

/-- The number of open containers, without the document. -/
def depth (o : Outline) : Nat := o.outer.length

/-- The blocks that a container turns into when it ends, in reverse. A paragraph that was waiting
for a definition is a paragraph after the list. -/
def closedBlocks (frame : Frame) : List Block :=
  match frame.kind, frame.reversed with
  | .definitionList tight, .possibleTitle text :: rest =>
    [.paragraph false text, .container frame.kind (tightenAll tight rest.reverse)]
  | .definitionList tight, reversed => [.container frame.kind (tightenAll tight reversed.reverse)]
  | .list tight _ _, reversed => [.container frame.kind (tightenAll tight reversed.reverse)]
  | kind, reversed => [.container kind reversed.reverse]
where
  /-- Items of a tight list show their paragraphs without frames. -/
  tightenAll (tight : Bool) (blocks : List Block) : List Block :=
    if tight then blocks.map Block.tighten else blocks

/-- Ends the innermost container. -/
def close (o : Outline) : Outline :=
  match o.outer with
  | [] => o
  | parent :: outer =>
    { o with
      top := { parent with reversed := closedBlocks o.top ++ parent.reversed }
      outer := outer
      emptyItem := match o.top.kind with
        | .list true _ _ => false
        | .definitionList _ => false
        | _ => o.emptyItem }

/-- Ends the innermost `n` containers. -/
def closeMany : Nat → Outline → Outline
  | 0, o => o
  | n + 1, o => closeMany n o.close

/-- Makes a list loose. -/
def loosen (frame : Frame) : Frame :=
  match frame.kind with
  | .list _ mark number => { frame with kind := .list false mark number }
  | .definitionList _ => { frame with kind := .definitionList false }
  | _ => frame

/-- Ends the innermost item if it began with a blank line and another one has followed. -/
def finishEmptyItem (o : Outline) : Outline :=
  let ended :=
    if o.emptyItem && o.afterBlank then
      match o.top.kind with
      | .item _ => o.close
      | .definition _ => o.close
      | _ => o
    else o
  { ended with emptyItem := false }

/-- Ends the innermost list, before a block that does not belong to it. A blank line before a
block in an item makes the list of the item loose. -/
def finishList (o : Outline) : Outline :=
  let o := o.finishEmptyItem
  let o := match o.top.kind with
    | .list _ _ _ => o.close
    | .definitionList _ => o.close
    | _ => o
  if o.afterBlank then
    { o with
      outer := match o.outer with
        | parent :: outer => loosen parent :: outer
        | [] => []
      afterBlank := false }
  else o

/-- Makes sure that the innermost container is a list with the given mark: the one that is open,
or a new one. -/
def continueList (o : Outline) (mark : Char) (number : Option Nat) : Outline :=
  let o := o.finishEmptyItem
  let fresh := fun (o : Outline) =>
    { o.openContainer (.list true mark number) with afterBlank := false }
  match o.top.kind with
  | .list _ present _ =>
    if present = mark then
      if o.afterBlank then { o with top := loosen o.top, afterBlank := false } else o
    else fresh o.finishList
  | .document => fresh o
  | _ => fresh o.finishList

/-- The outline after a blank line. An item that holds nothing yet can then hold nothing more. -/
def blankLine (o : Outline) : Outline :=
  match o.top.kind with
  | .quote => o
  | .item indent =>
    { o with
      afterBlank := true
      top := if o.emptyItem then { o.top with kind := .item 0 } else { o.top with kind := .item indent } }
  | .definition indent =>
    { o with
      afterBlank := true
      top := if o.emptyItem then { o.top with kind := .definition 0 }
        else { o.top with kind := .definition indent } }
  | _ => { o with afterBlank := true }

/-- The outline with a definition of a label, unless the label has one. -/
def define (o : Outline) (label : List Char) (definition : Definition) : Outline :=
  let key := labelKey label
  if o.definitions.any (·.1 == key) then o
  else { o with definitions := (key, definition) :: o.definitions }

end Outline

end Markup

end MarkdownPages
