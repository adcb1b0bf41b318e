import MarkdownPages.Text.Alphanumeric

/-!
# Decimal notation

## Main definitions

* `Numeral.natural?` — digits in some base, without a sign
* `Decimal` — a sign, digits and a power of ten
* `Decimal.ofChars?` — reads a sign, digits with at most one point, and an exponent
-/

namespace MarkdownPages

namespace Numeral

/-! ### Naturals -/

/-- Whether a character is a digit in a base of at most sixteen. -/
def isDigitIn (base : Nat) (c : Char) : Bool := Text.isHexDigit c && Text.digitValue c < base

/-- The number that digits stand for. -/
def ofDigits (base : Nat) (digits : List Char) : Nat :=
  digits.foldl (fun n c => n * base + Text.digitValue c) 0

/-- The number written by a text that holds digits and nothing else. -/
def natural? (base : Nat) (s : List Char) : Option Nat :=
  if !s.isEmpty && s.all (isDigitIn base) then some (ofDigits base s) else none

/-- A text without its sign, and whether the sign was a minus. -/
def cutSign : List Char → Bool × List Char
  | '-' :: rest => (true, rest)
  | '+' :: rest => (false, rest)
  | s => (false, s)

/-- Whether a text starts with a sign. -/
def isSigned : List Char → Bool
  | c :: _ => c == '-' || c == '+'
  | [] => false

end Numeral

/-! ### Numbers with a point -/

/-- The number `± digits * 10 ^ exponent`. -/
structure Decimal where
  negative : Bool
  digits : Nat
  exponent : Int
deriving DecidableEq, Inhabited, Repr

namespace Decimal

/-- The exponent that a text after the digits of a number states; none is zero. -/
def exponent? : List Char → Option Int
  | [] => some 0
  | c :: rest =>
    if c == 'e' || c == 'E' then
      let (negative, digits) := Numeral.cutSign rest
      (Numeral.natural? 10 digits).map fun n => if negative then -(n : Int) else n
    else none

/-- The number that a text writes in decimal notation. A digit is needed before or after the
point. -/
def ofChars? (s : List Char) : Option Decimal :=
  let (negative, body) := Numeral.cutSign s
  let (whole, rest) := body.span Text.isAsciiDigit
  let (fraction, rest) := match rest with
    | '.' :: rest => rest.span Text.isAsciiDigit
    | rest => ([], rest)
  if whole.isEmpty && fraction.isEmpty then none
  else (exponent? rest).map fun exponent =>
    { negative := negative
      digits := Numeral.ofDigits 10 (whole ++ fraction)
      exponent := exponent - fraction.length }

end Decimal

end MarkdownPages
