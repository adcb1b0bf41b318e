import MarkdownPages.Numeral.Decimal
import MarkdownPages.Yaml.Character

/-!
# Texts of scalars

A scalar is written plain, between quotes, or as a block of indented lines. In plain and quoted
scalars a single line break reads as a space and of several breaks the first is dropped; blanks
around breaks do not count.

## Main definitions

* `Yaml.Fold` — blanks and breaks seen since the last other character
* `Yaml.quoted?` — a scalar between quotes
* `Yaml.plain?` — a plain scalar
* `Yaml.block?` — a block scalar

## Implementation notes

Each reader collects the text of the scalar in reverse, and stops with `none` where no scalar can
be read. Reading takes at most as many steps as there are characters left.
-/

namespace MarkdownPages

namespace Yaml

/-! ### Blanks and breaks -/

/-- The blanks and breaks since the last other character, all in reverse. -/
structure Fold where
  /-- Blanks before the first break. -/
  blanks : List Char := []
  /-- Whether a line has ended; blanks then no longer count. -/
  broken : Bool := false
  /-- The first break, unless it was escaped. -/
  first : Option Char := none
  /-- The other breaks. -/
  others : List Char := []
deriving Inhabited, Repr

namespace Fold

/-- One more blank or break. -/
def add (f : Fold) (c : Char) : Fold :=
  if isBreak c then
    if f.broken then { f with others := c :: f.others }
    else { blanks := [], broken := true, first := some c, others := [] }
  else if f.broken then f
  else { f with blanks := c :: f.blanks }

/-- What the blanks and breaks read as, in reverse. -/
def text (f : Fold) : List Char :=
  if f.broken then
    match f.first with
    | some '\n' => if f.others.isEmpty then [' '] else f.others
    | some c => f.others ++ [c]
    | none => f.others
  else f.blanks

end Fold

/-! ### Quoted scalars -/

/-- The character that a backslash and a letter stand for. -/
def escape? : Char → Option Char
  | '0' => some (Char.ofNat 0)
  | 'a' => some '\x07'
  | 'b' => some '\x08'
  | 't' | '\t' => some '\t'
  | 'n' => some '\n'
  | 'v' => some '\x0b'
  | 'f' => some '\x0c'
  | 'r' => some '\r'
  | 'e' => some '\x1b'
  | ' ' => some ' '
  | '"' => some '"'
  | '/' => some '/'
  | '\\' => some '\\'
  | 'N' => some (Char.ofNat 0x85)
  | '_' => some (Char.ofNat 0xA0)
  | 'L' => some (Char.ofNat 0x2028)
  | 'P' => some (Char.ofNat 0x2029)
  | _ => none

/-- How many hexadecimal digits follow a backslash and a letter. -/
def escapeDigits? : Char → Option Nat
  | 'x' => some 2
  | 'u' => some 4
  | 'U' => some 8
  | _ => none

/-- The character of an escape, and how many characters write it, for the text behind the
backslash. -/
def escapeSequence? : List Char → Option (Char × Nat)
  | [] => none
  | c :: rest =>
    match escapeDigits? c with
    | none => (escape? c).map fun character => (character, 1)
    | some count => do
      let digits := rest.take count
      guard (digits.length = count)
      let code ← Numeral.natural? 16 digits
      guard (code.isValidChar)
      return (Char.ofNat code, count + 1)

/-- The rest of a scalar between quotes, given what was read of it. -/
def quotedFrom? (single : Bool) (fuel : Nat) (p : Place) (done : List Char) (fold : Fold) :
    Option (List Char × Place) :=
  match fuel with
  | 0 => none
  | fuel + 1 =>
    match p.rest with
    | [] => none
    | c :: rest =>
      if p.atDocumentMarker then none
      else if isBlank c || isBreak c then quotedFrom? single fuel p.skip done (fold.add c)
      else
        let done := fold.text ++ done
        if single then
          match c, rest with
          | '\'', '\'' :: _ => quotedFrom? single fuel (p.skipMany 2) ('\'' :: done) {}
          | '\'', _ => some (done.reverse, p.skip)
          | _, _ => quotedFrom? single fuel p.skip (c :: done) {}
        else if c == '"' then some (done.reverse, p.skip)
        else if c == '\\' then
          match rest with
          | [] => none
          | next :: _ =>
            if isBreak next then quotedFrom? single fuel (p.skipMany 2) done { broken := true }
            else
              match escapeSequence? rest with
              | none => none
              | some (character, count) =>
                quotedFrom? single fuel (p.skipMany (count + 1)) (character :: done) {}
        else quotedFrom? single fuel p.skip (c :: done) {}

/-- The text of a scalar whose opening quote stands here, and the place behind it. -/
def quoted? (single : Bool) (p : Place) : Option (List Char × Place) :=
  quotedFrom? single (p.rest.length + 1) p.skip [] {}

/-! ### Plain scalars -/

/-- Whether a plain scalar ends before the text: at a colon followed by a blank, and between
brackets at each of their indicators. -/
def endsPlain (inFlow : Bool) : List Char → Bool
  | [] => true
  | c :: rest => (c == ':' && startsBlank rest) || (inFlow && flowIndicators.contains c)

/-- The rest of a plain scalar, given what was read of it. The last part of the result says
whether a line has ended since the last character of the scalar. -/
def plainFrom? (inFlow : Bool) (indent : Nat) (fuel : Nat) (p : Place) (done : List Char)
    (fold : Fold) : Option (List Char × Place × Bool) :=
  match fuel with
  | 0 => none
  | fuel + 1 =>
    let finished := some (done.reverse, p, fold.broken)
    match p.rest with
    | [] => finished
    | c :: rest =>
      if isBlank c || isBreak c then
        if c == '\t' && fold.broken && p.column < indent then none
        else plainFrom? inFlow indent fuel p.skip done (fold.add c)
      else
        let spaced := fold.broken || !fold.blanks.isEmpty
        if spaced && !inFlow && p.column < indent && fold.broken then finished
        else if p.atDocumentMarker then finished
        else if c == '#' && spaced then finished
        else if inFlow && c == ':' && startsWithAny ('?' :: flowIndicators) rest then none
        else if endsPlain inFlow p.rest then finished
        else plainFrom? inFlow indent fuel p.skip (c :: fold.text ++ done) {}

/-- The text of a plain scalar that starts here, the place behind it and the blanks after it, and
whether a line has ended there. -/
def plain? (inFlow : Bool) (indent : Nat) (p : Place) : Option (List Char × Place × Bool) :=
  plainFrom? inFlow indent (p.rest.length + 1) p [] {}

/-! ### Block scalars -/

/-- What happens to the breaks at the end of a block scalar. -/
inductive Chomp where
  | strip
  | clip
  | keep
deriving DecidableEq, Repr

/-- What a character in the header of a block scalar says about the end. -/
def chomp? : Char → Option Chomp
  | '-' => some .strip
  | '+' => some .keep
  | _ => none

/-- The indentation that a character in the header of a block scalar states. -/
def indentDigit? (c : Char) : Option Nat :=
  if Text.isAsciiDigit c then some (Text.digitValue c) else none

/-- The header of a block scalar: at most one sign for its end and one digit for its indentation,
in either order. A digit of zero is refused. -/
def blockHeader? (p : Place) : Option (Chomp × Option Nat × Place) := do
  let (sign, p) := match p.rest.head?.bind chomp? with
    | some sign => (some sign, p.skip)
    | none => (none, p)
  let (digit, p) := match p.rest.head?.bind indentDigit? with
    | some digit => (some digit, p.skip)
    | none => (none, p)
  guard (digit ≠ some 0)
  let (sign, p) := match sign, digit, p.rest.head?.bind chomp? with
    | none, some _, some sign => (some sign, p.skip)
    | _, _, _ => (sign, p)
  return (sign.getD .clip, digit, p)

/-- Passes over the indentation of empty lines. While the indentation is unknown every space
counts as indentation, and the widest line seen is remembered. A tab in the indentation is
refused. The result is the breaks passed, in reverse, and the widest column. -/
def blockBreaks? (indent : Option Nat) (fuel : Nat) (p : Place) (breaks : List Char)
    (widest : Nat) : Option (List Char × Nat × Place) :=
  match fuel with
  | 0 => none
  | fuel + 1 =>
    let inIndent := match indent with
      | some n => decide (p.column < n)
      | none => true
    match p.rest with
    | [] => some (breaks, max widest p.column, p)
    | c :: _ =>
      if inIndent && c == ' ' then blockBreaks? indent fuel p.skip breaks widest
      else if inIndent && c == '\t' then none
      else
        let widest := max widest p.column
        if isBreak c then blockBreaks? indent fuel p.skip (c :: breaks) widest
        else some (breaks, widest, p)

/-- The breaks between two lines of a folded block scalar, in reverse. A line feed is dropped if
neither line starts with a blank, and a space stands in for it if no empty line follows. -/
def foldedBreaks (folds : Bool) (lineBreak others : List Char) : List Char :=
  if folds && lineBreak == ['\n'] then if others.isEmpty then [' '] else others
  else others ++ lineBreak

/-- The lines of a block scalar, given what was read of it in reverse, the break that ended the
last line, whether that line started with a blank, and the breaks of the empty lines after it. -/
def blockLines? (literal : Bool) (indent : Nat) (chomp : Chomp) (fuel : Nat) (p : Place)
    (done lineBreak : List Char) (afterBlank : Bool) (others : List Char) :
    Option (List Char × Place) :=
  match fuel with
  | 0 => none
  | fuel + 1 =>
    if p.column = indent && !p.rest.isEmpty then
      let blank := startsWithAny [' ', '\t'] p.rest
      let folds := !literal && !afterBlank && !blank
      let (line, p) := p.skipWhile fun c => !isBreak c
      let done := line.reverse ++ foldedBreaks folds lineBreak others ++ done
      let lineBreak := p.rest.take 1
      let p := p.skip
      match blockBreaks? (some indent) (p.rest.length + 1) p [] 0 with
      | none => none
      | some (others, _, p) => blockLines? literal indent chomp fuel p done lineBreak blank others
    else
      let ending := match chomp with
        | .strip => []
        | .clip => lineBreak
        | .keep => others ++ lineBreak
      some ((ending ++ done).reverse, p)

/-- The text of a block scalar whose indicator stands here, and the place behind it. The lines
around it are indented by `outer`, or stand at no level at all. -/
def block? (literal : Bool) (outer : Option Nat) (p : Place) : Option (List Char × Place) := do
  let (chomp, digit, p) ← blockHeader? p.skip
  let p := p.skipComment
  guard (startsBreak p.rest)
  let p := p.skip
  let stated := digit.map fun n => outer.getD 0 + n
  let (breaks, widest, p) ← blockBreaks? stated (p.rest.length + 1) p [] 0
  let least := match outer with
    | some n => n + 1
    | none => 1
  let indent := stated.getD (max widest least)
  blockLines? literal indent chomp (p.rest.length + 1) p [] [] false breaks

end Yaml

end MarkdownPages
