import MarkdownPages.Text.Alphanumeric

/-!
# Characters of the data notation

## Main definitions

* `Yaml.isAllowed` — the characters that a text may hold
* `Yaml.withPlainBreaks` — a text in which every ordinary line break is a line feed
* `Yaml.Place` — a position in a text, with its line and column

## Implementation notes

A carriage return, with or without a line feed, and a next-line character mean the same as a line
feed wherever they stand, so they are replaced before anything else is read. The line and the
paragraph separator break lines too, but stay what they are inside a scalar.
-/

namespace MarkdownPages

namespace Yaml

/-! ### Classes -/

/-- A character that a text may hold: tab, line breaks and everything that is no control
character, surrogate or noncharacter at the end of the basic plane. -/
def isAllowed (c : Char) : Bool :=
  let n := c.toNat
  n == 0x09 || n == 0x0A || n == 0x0D || (0x20 ≤ n && n ≤ 0x7E) || n == 0x85 ||
    (0xA0 ≤ n && n ≤ 0xFFFD) || 0x10000 ≤ n

/-- A line break, in a text with plain breaks. -/
def isBreak (c : Char) : Bool := c == '\n' || c.toNat == 0x2028 || c.toNat == 0x2029

/-- A space or a tab. -/
def isBlank (c : Char) : Bool := c == ' ' || c == '\t'

/-- A character of an anchor or of the handle of a tag. -/
def isWord (c : Char) : Bool := Text.isAsciiAlphanumeric c || c == '_' || c == '-'

/-- Whether a text goes on with a blank or a break, or ends. -/
def startsBlank : List Char → Bool
  | [] => true
  | c :: _ => isBlank c || isBreak c

/-- Whether a text goes on with a break, or ends. -/
def startsBreak : List Char → Bool
  | [] => true
  | c :: _ => isBreak c

/-- Whether the first character of a text is one of some characters. -/
def startsWithAny (characters : List Char) : List Char → Bool
  | [] => false
  | c :: _ => characters.contains c

/-- A character that ends or joins the items of a collection in brackets. -/
def flowIndicators : List Char := [',', '[', ']', '{', '}']

/-- Every ordinary line break as a line feed. -/
def withPlainBreaks : List Char → List Char
  | '\r' :: '\n' :: rest => '\n' :: withPlainBreaks rest
  | c :: rest =>
    (if c == '\r' || c.toNat == 0x85 then '\n' else c) :: withPlainBreaks rest
  | [] => []

/-- The mark of byte order, which may stand at the start of a text. -/
def isByteOrderMark (c : Char) : Bool := c.toNat == 0xFEFF

/-! ### Places -/

/-- What is left of a text, and the line and column where that starts. -/
structure Place where
  rest : List Char
  line : Nat := 0
  column : Nat := 0
deriving Inhabited, Repr

namespace Place

/-- The place behind the next character. -/
def skip (p : Place) : Place :=
  match p.rest with
  | [] => p
  | c :: rest =>
    if isBreak c then { rest := rest, line := p.line + 1, column := 0 }
    else { p with rest := rest, column := p.column + 1 }

/-- The place behind some more characters. -/
def skipMany (p : Place) : Nat → Place
  | 0 => p
  | n + 1 => p.skip.skipMany n

/-- The place behind the characters in a row that are in a class without line breaks, and those
characters. -/
def skipWhile (p : Place) (inClass : Char → Bool) : List Char × Place :=
  let (taken, rest) := p.rest.span inClass
  (taken, { p with rest := rest, column := p.column + taken.length })

/-- The place at the end of the line. -/
def skipLine (p : Place) : Place := (p.skipWhile fun c => !isBreak c).2

/-- The place behind blanks, and behind a comment if there is one. -/
def skipComment (p : Place) : Place :=
  let p := (p.skipWhile isBlank).2
  if p.rest.head? = some '#' then p.skipLine else p

/-- Whether a marker of three characters, which bounds a document, stands here: at the start of
a line, followed by a blank or a break. -/
def atMarker (p : Place) (c : Char) : Bool :=
  p.column == 0 &&
    match p.rest with
    | x :: y :: z :: rest => x == c && y == c && z == c && startsBlank rest
    | _ => false

/-- Whether either marker of documents stands here. -/
def atDocumentMarker (p : Place) : Bool := p.atMarker '-' || p.atMarker '.'

end Place

end Yaml

end MarkdownPages
