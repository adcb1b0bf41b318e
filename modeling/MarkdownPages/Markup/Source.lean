import MarkdownPages.Markup.Cursor

/-!
# The text of a block

A block of text is a sequence of lines. In front of each line but the first stand the markers of
the containers around the block (`>` of a quotation, the indentation of a list item) and white
space, which are not part of the text, but some constructs that span lines see them. So a source
keeps all characters of the block, and says where on each line the text starts.

## Main definitions

* `Line` — a line of a block, as it stands in the document
* `Source`, `Source.ofLines` — the characters of a block and its lines
* `Source.slice`, `Source.afterMarkers` — reading a source
-/

namespace MarkdownPages

namespace Markup

/-- A line of a block. -/
structure Line where
  /-- Everything up to the end of the line. -/
  raw : List Char
  /-- How many characters belong to the containers around the block. -/
  markers : Nat := 0
  /-- How many characters of white space follow the markers. -/
  indent : Nat := 0
  /-- The characters that end the line. -/
  ending : List Char := []
deriving Inhabited, Repr

/-- Where a line stands in a source. -/
structure Span where
  /-- The first character of the line. -/
  first : Nat
  /-- The first character after the markers of containers. -/
  content : Nat
  /-- The first character of the text. -/
  start : Nat
  /-- The end of the text. -/
  stop : Nat
  /-- The first character after the end of the line. -/
  next : Nat
deriving Inhabited, Repr

/-- The characters of a block, with the places of its lines. -/
structure Source where
  chars : Array Char
  spans : List Span
  /-- Whether the block is a cell of a table. -/
  inTable : Bool := false
  /-- Whether white space at the end of the block is dropped. -/
  trimsEnd : Bool := true
deriving Inhabited, Repr

namespace Source

/-- The places of lines that follow one another from a given place on. -/
def spansFrom (first : Nat) : List Line → List Span
  | [] => []
  | line :: rest =>
    let stop := first + line.raw.length
    let next := stop + line.ending.length
    { first := first
      content := first + line.markers
      start := first + line.markers + line.indent
      stop := stop
      next := next } :: spansFrom next rest

/-- The source that consists of the given lines. -/
def ofLines (lines : List Line) : Source :=
  { chars := (lines.flatMap fun line => line.raw ++ line.ending).toArray
    spans := spansFrom 0 lines }

/-- The source of a single text whose part before `limit` counts. -/
def ofText (text : List Char) (limit : Nat) : Source :=
  { chars := text.toArray, spans := [⟨0, 0, 0, limit, text.length⟩] }

/-- The character at a place. -/
def at? (source : Source) (i : Nat) : Option Char := source.chars[i]?

/-- The characters from `start` up to `stop`. -/
def slice (source : Source) (start stop : Nat) : List Char :=
  (source.chars.extract start stop).toList

/-- The length of the markers in front of the line that starts at a place; zero if no line starts
there. -/
def markersAt (source : Source) (i : Nat) : Nat :=
  match source.spans.find? (·.first == i) with
  | some span => span.content - span.first
  | none => 0

/-- The place after the markers of the line that starts at `i`. -/
def afterMarkers (source : Source) (i : Nat) : Nat := i + source.markersAt i

/-- The length of the end of a line at a place; zero if there is none, and none at the end of the
source. -/
def endLength? (source : Source) (i : Nat) : Option Nat :=
  match source.at? i with
  | none => some 0
  | some '\n' => some 1
  | some '\r' => some (if source.at? (i + 1) == some '\n' then 2 else 1)
  | some _ => none

/-- The first place from `i` on whose character does not satisfy `p`. -/
def skipWhile (source : Source) (p : Char → Bool) (i : Nat) : Nat :=
  if h : i < source.chars.size then
    if p source.chars[i] then source.skipWhile p (i + 1) else i
  else i
termination_by source.chars.size - i

/-- Whether a text stands at a place. -/
def hasAt (source : Source) (text : List Char) (i : Nat) : Bool :=
  source.slice i (i + text.length) == text

end Source

end Markup

end MarkdownPages
