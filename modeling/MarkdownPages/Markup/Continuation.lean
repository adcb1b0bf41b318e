import MarkdownPages.Markup.Block
import MarkdownPages.Markup.Features
import MarkdownPages.Markup.Marker

/-!
# How a block goes on

Whether the next line belongs to the open containers, and whether it goes on with a paragraph or
starts something else.

## Main definitions

* `matchContainers` — the containers that a line belongs to
* `Setting.interrupts` — whether a line ends the paragraph before it
* `Setting.nextLine` — what the next line is to a paragraph
-/

namespace MarkdownPages

namespace Markup

/-- The number of containers, outermost first, that a line belongs to, and the cursor after their
marks. -/
def matchContainers (footnotes : Bool) : List Container → Cursor → Nat × Cursor
  | [], cursor => (0, cursor)
  | container :: rest, cursor =>
    let more := fun cursor =>
      let (count, cursor) := matchContainers footnotes rest cursor
      (count + 1, cursor)
    let indented := fun columns =>
      let (missing, after) := cursor.skip columns
      if missing = 0 || after.isAtEnd then more after else (0, cursor)
    match container with
    | .quote =>
      match (cursor.skip 3).2.quoteMarker? with
      | some after => more after
      | none => (0, cursor)
    | .item indent => indented indent
    | .definition indent => indented indent
    | .footnote _ => if footnotes then indented 4 else more cursor
    | _ => more cursor

/-- The label of a footnote definition at the start of a text, and what follows its colon. -/
def footnoteLabel? (inTable : Bool) (s : List Char) : Option (String × List Char) :=
  match s with
  | '[' :: '^' :: _ =>
    let (line, _, _) := cutLine s
    let source := { Source.ofText line line.length with inTable := inTable }
    match source.label? false 2 with
    | some (label, stop) =>
      if source.at? stop == some ':' then some (String.ofList label, s.drop (stop + 1)) else none
    | none => none
  | _ => none

/-- Where a line stands: the features in use, the containers that are open, and what kind of text
came before. -/
structure Setting where
  features : Features
  containers : List Container
  /-- Whether the line follows a paragraph. -/
  inParagraph : Bool
  inTable : Bool := false

namespace Setting

/-- The containers of a line and the cursor after their marks. -/
def enter (setting : Setting) (s : List Char) : Nat × Cursor :=
  matchContainers setting.features.footnotes setting.containers (Cursor.start s)

/-- Whether a line that starts with a list mark ends a paragraph. Inside the same containers only
a bullet or the number one does, and only if the item is not empty. -/
def itemInterrupts (setting : Setting) (current : Bool) (s : List Char) : Bool :=
  match (Cursor.start s).listMarker? 0 with
  | some (marker, after) =>
    !current || setting.inTable ||
      ((marker.number.isNone || marker.number == some 1) && !isBlankTwice after.rest)
  | none => false

/-- Whether a colon ends a paragraph: after a paragraph that may be a term, or anywhere inside a
definition. -/
def colonInterrupts (setting : Setting) (current : Bool) (s : List Char) : Bool :=
  setting.features.definitionLists && s.head? == some ':' &&
    ((current && setting.inParagraph) ||
      setting.containers.any fun
        | .definition _ => true
        | _ => false)

/-- Whether an HTML block starts that may end a paragraph. -/
def htmlInterrupts (s : List Char) : Bool :=
  match s with
  | '<' :: rest => (htmlEnd? rest).isSome || startsBlockTag rest
  | _ => false

/-- Whether a line starts something else than text or a table; `current` tells whether it belongs
to all open containers. -/
def interruptsRow (setting : Setting) (current : Bool) (s : List Char) : Bool :=
  atEnd s || (rule? s).isSome || (headingLevel? s).isSome || (fence? s).isSome ||
    s.head? == some '>' || setting.itemInterrupts current s || htmlInterrupts s ||
    setting.colonInterrupts current s ||
    (setting.features.footnotes && (footnoteLabel? setting.inTable s).isSome)

/-- Whether a line that starts with a bar is the header of a table. -/
def startsTable (setting : Setting) (s : List Char) : Bool :=
  if setting.features.gfm && s.head? == some '|' then
    let (line, ending, rest) := cutLine s
    let (count, cursor) := setting.enter rest
    if ending.isEmpty || count != setting.containers.length then false
    else
      match delimiterColumns? cursor.rest with
      | some (columns, _) => headerColumns line (bars false line) == columns
      | none => false
  else false

/-- Whether a line ends the paragraph before it. -/
def interrupts (setting : Setting) (current : Bool) (s : List Char) : Bool :=
  setting.interruptsRow current s || setting.startsTable s

end Setting

/-- What the next line is to a paragraph. -/
inductive NextLine where
  /-- Something else. -/
  | stop
  /-- A line that makes the paragraph a heading. -/
  | underline (level : Nat) (rest : List Char)
  /-- More text. -/
  | text (line : Line) (rest : List Char)

/-- What the next line is to a paragraph. More text need not repeat the marks of all containers.
-/
def Setting.nextLine (setting : Setting) (s : List Char) : NextLine :=
  let (count, cursor) := setting.enter s
  let current := count == setting.containers.length
  let (missing, spaced) := cursor.skip 4
  let ended : NextLine :=
    let text := spaced.skipAll
    if text.isAtEnd then .stop
    else
      let (raw, ending, rest) := cutLine s
      .text ⟨raw, cursor.passed, text.passed - cursor.passed, ending⟩ rest
  if missing = 0 then ended
  else
    match if current then underline? spaced.rest else none with
    | some (level, rest) => .underline level rest
    | none => if setting.interrupts current spaced.rest then .stop else ended

/-- The lines that follow the first line of a paragraph, the level of the heading if a line makes
it one, and what follows. -/
def Setting.paragraphLines (setting : Setting) :
    Nat → List Char → List Line × Option Nat × List Char
  | 0, s => ([], none, s)
  | fuel + 1, s =>
    match setting.nextLine s with
    | .stop => ([], none, s)
    | .underline level rest => ([], some level, rest)
    | .text line rest =>
      let (lines, level, rest) := setting.paragraphLines fuel rest
      (line :: lines, level, rest)

end Markup

end MarkdownPages
