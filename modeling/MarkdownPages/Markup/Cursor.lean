/-!
# The start of a line

Blocks are recognised at the start of lines, where columns count: a tab advances to the next
multiple of four columns, and a block marker may end in the middle of a tab. A cursor stands
somewhere in the white space and markers at the start of a line, and remembers how many columns
of a tab it has not used yet.

## Main definitions

* `Cursor` — a position at the start of a line
* `Cursor.skip` — passes over a number of columns of white space
* `Cursor.skipAll` — passes over all white space
* `isLineSpace`, `isSpace`, `afterEnd?`, `afterBlank?`, `cutLine`, `cutPhysicalLine` — lines
-/

namespace MarkdownPages

namespace Markup

/-! ### Lines -/

/-- White space within a line. -/
def isLineSpace (c : Char) : Bool := c == ' ' || c == '\t' || c == '\x0b' || c == '\x0c'

/-- White space, ends of lines included. -/
def isSpace (c : Char) : Bool := isLineSpace c || c == '\n' || c == '\r'

/-- What follows the end of a line, if the text starts with one. The end of the text is one. -/
def afterEnd? : List Char → Option (List Char)
  | [] => some []
  | '\n' :: rest => some rest
  | '\r' :: '\n' :: rest => some rest
  | '\r' :: rest => some rest
  | _ => none

/-- What follows the line, if nothing but white space is left of it. -/
def afterBlank? (s : List Char) : Option (List Char) := afterEnd? (s.dropWhile isLineSpace)

/-- Whether nothing but white space is left of the line. -/
def isBlankLine (s : List Char) : Bool := (afterBlank? s).isSome

/-- Whether the text starts with the end of a line. -/
def atEnd (s : List Char) : Bool := (afterEnd? s).isSome

/-- The line without its end, the end, and what follows. -/
def cutLine (s : List Char) : List Char × List Char × List Char :=
  let (line, rest) := s.span fun c => c != '\n' && c != '\r'
  match rest with
  | '\n' :: rest => (line, ['\n'], rest)
  | '\r' :: '\n' :: rest => (line, ['\r', '\n'], rest)
  | '\r' :: rest => (line, ['\r'], rest)
  | rest => (line, [], rest)

/-- The text up to and including the first line feed, and what follows. -/
def cutPhysicalLine (s : List Char) : List Char × List Char :=
  let (line, rest) := s.span (· != '\n')
  match rest with
  | '\n' :: rest => (line ++ ['\n'], rest)
  | rest => (line, rest)

/-- A line of literal text, where a carriage return before its last character is dropped. -/
def withoutReturn (line : List Char) : List Char :=
  match line.reverse with
  | last :: '\r' :: before => (last :: before).reverse
  | _ => line

/-- The text without its longest beginning of the character `c`, and how long that is. -/
def countStart (c : Char) (s : List Char) : Nat × List Char :=
  let (run, rest) := s.span (· == c)
  (run.length, rest)

/-! ### Columns -/

/-- A position at the start of a line. -/
structure Cursor where
  /-- What follows the position. -/
  rest : List Char
  /-- The number of characters passed since the start of the line. -/
  passed : Nat := 0
  /-- The number of characters passed when tab stops last started anew. -/
  tabOrigin : Nat := 0
  /-- The columns of the last tab that have not been used. -/
  spare : Nat := 0
deriving Inhabited

namespace Cursor

/-- Passes over at most `columns` columns of white space that starts at `rest`; the first
component tells how many are missing. -/
def skipFrom (passed tabOrigin : Nat) : Nat → List Char → Nat × Cursor
  | columns + 1, ' ' :: rest => skipFrom (passed + 1) tabOrigin columns rest
  | columns + 1, '\t' :: rest =>
    let width := 4 - (passed - tabOrigin) % 4
    if width ≤ columns + 1 then skipFrom (passed + 1) (passed + 1) (columns + 1 - width) rest
    else (0, ⟨rest, passed + 1, passed + 1, width - (columns + 1)⟩)
  | columns, rest => (columns, ⟨rest, passed, tabOrigin, 0⟩)
termination_by _ rest => rest.length

/-- Passes over at most `columns` columns of white space; the first component tells how many are
missing. -/
def skip (cursor : Cursor) (columns : Nat) : Nat × Cursor :=
  if columns ≤ cursor.spare then (0, { cursor with spare := cursor.spare - columns })
  else skipFrom cursor.passed cursor.tabOrigin (columns - cursor.spare) cursor.rest

/-- Passes over all spaces and tabs. -/
def skipAll (cursor : Cursor) : Cursor :=
  let (blanks, rest) := cursor.rest.span fun c => c == ' ' || c == '\t'
  { cursor with rest := rest, passed := cursor.passed + blanks.length, spare := 0 }

/-- Passes over one character. -/
def step (cursor : Cursor) : Cursor :=
  { cursor with rest := cursor.rest.tail, passed := cursor.passed + 1 }

/-- Passes over several characters. -/
def advance (cursor : Cursor) (n : Nat) : Cursor :=
  { cursor with rest := cursor.rest.drop n, passed := cursor.passed + n }

/-- The cursor at the start of the line that begins at `rest`. -/
def start (rest : List Char) : Cursor := { rest := rest }

/-- Whether the line ends here. -/
def isAtEnd (cursor : Cursor) : Bool := atEnd cursor.rest

end Cursor

end Markup

end MarkdownPages
