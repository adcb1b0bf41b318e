import MarkdownPages.Numeral.Binary64
import MarkdownPages.Text.Split

/-!
# Numbers and moments of the settings notation

Settings hold no numbers and no moments, but a text may have both under names that mean nothing
here. They only have to be written correctly and not to be too large.

## Main definitions

* `Toml.isNumber` — whether a word writes a number
* `Toml.isMoment` — whether a word writes a date, a time, or both
-/

namespace MarkdownPages

namespace Toml

/-! ### Numbers -/

/-- The digits of a text in which underscores stand between digits only. -/
def plainDigits? (isDigit : Char → Bool) (s : List Char) : Option (List Char) :=
  let groups := Text.splitOn (· == '_') s
  if groups.all fun group => !group.isEmpty && group.all isDigit then some groups.flatten else none

/-- Digits of which the first is a zero only if it is the only one. -/
def wholeDigits? (s : List Char) : Option (List Char) :=
  (plainDigits? Text.isAsciiDigit s).filter fun digits =>
    digits.head? ≠ some '0' || digits.length = 1

/-- Whether a whole number is small enough to be told from others. -/
def isModest : Int → Bool
  | .ofNat n => n < Nat.pow 2 128
  | .negSucc n => n < Nat.pow 2 127

/-- Whether a text writes a number in a base other than ten. -/
def isBased (base : Nat) (s : List Char) : Bool :=
  match plainDigits? (Numeral.isDigitIn base) s with
  | some digits => isModest (Numeral.ofDigits base digits)
  | none => false

/-- Whether a text writes a whole number in base ten. -/
def isWhole (s : List Char) : Bool :=
  let (negative, body) := Numeral.cutSign s
  match wholeDigits? body with
  | some digits =>
    let n : Int := Numeral.ofDigits 10 digits
    isModest (if negative then -n else n)
  | none => false

/-- A text without its exponent: the part before it and the digits of the exponent. -/
def cutExponent (s : List Char) : List Char × Option (List Char) :=
  let (mantissa, rest) := s.span fun c => c != 'e' && c != 'E'
  match rest with
  | _ :: exponent => (mantissa, some exponent)
  | [] => (mantissa, none)

/-- Whether a text writes a number with a point or an exponent that is not too large. -/
def isFloat (s : List Char) : Bool :=
  let (_, body) := Numeral.cutSign s
  let (mantissa, exponent) := cutExponent body
  let (whole, fraction) := match Text.cutFirst '.' mantissa with
    | some (whole, fraction) => (whole, some fraction)
    | none => (mantissa, none)
  (fraction.isSome || exponent.isSome) && (wholeDigits? whole).isSome &&
    fraction.all (fun f => (plainDigits? Text.isAsciiDigit f).isSome) &&
    exponent.all (fun e => (plainDigits? Text.isAsciiDigit (Numeral.cutSign e).2).isSome) &&
    ((Decimal.ofChars? (s.filter (· != '_'))).bind Binary64.ofDecimal?).isSome

/-- Whether a word writes a number. -/
def isNumber (s : List Char) : Bool :=
  match s with
  | '0' :: 'x' :: digits => isBased 16 digits
  | '0' :: 'o' :: digits => isBased 8 digits
  | '0' :: 'b' :: digits => isBased 2 digits
  | _ =>
    let body := (Numeral.cutSign s).2
    body == ['i', 'n', 'f'] || body == ['n', 'a', 'n'] || isWhole s || isFloat s

/-! ### Moments -/

/-- A number of exactly so many digits. -/
def fixedNumber? (count : Nat) (s : List Char) : Option Nat :=
  if s.length = count then Numeral.natural? 10 s else none

/-- The number of days of a month. -/
def daysIn (year month : Nat) : Nat :=
  if month = 2 then
    if (year % 4 = 0 && year % 100 ≠ 0) || year % 400 = 0 then 29 else 28
  else if [4, 6, 9, 11].contains month then 30
  else 31

/-- Whether a text writes a date. -/
def isDate (s : List Char) : Bool :=
  match Text.splitOn (· == '-') s with
  | [year, month, day] =>
    match fixedNumber? 4 year, fixedNumber? 2 month, fixedNumber? 2 day with
    | some year, some month, some day =>
      1 ≤ month && month ≤ 12 && 1 ≤ day && day ≤ daysIn year month
    | _, _, _ => false
  | _ => false

/-- Whether a text writes hours and minutes. -/
def isClock (s : List Char) : Bool :=
  match Text.splitOn (· == ':') s with
  | [hour, minute] =>
    (fixedNumber? 2 hour).any (· ≤ 23) && (fixedNumber? 2 minute).any (· ≤ 59)
  | _ => false

/-- Whether a text writes seconds, with a fraction or without. -/
def isSeconds (s : List Char) : Bool :=
  let (whole, fraction) := match Text.cutFirst '.' s with
    | some (whole, fraction) => (whole, some fraction)
    | none => (s, none)
  (fixedNumber? 2 whole).any (· ≤ 60) &&
    fraction.all fun f => !f.isEmpty && f.all Text.isAsciiDigit

/-- Whether a text writes a time; the seconds may be left out. -/
def isTime (s : List Char) : Bool :=
  isClock (s.take 5) &&
    match s.drop 5 with
    | [] => true
    | ':' :: seconds => isSeconds seconds
    | _ => false

/-- A time without the offset behind it, if the offset is written correctly. -/
def cutOffset? (s : List Char) : Option (List Char) :=
  match s.reverse with
  | c :: rest =>
    if c == 'Z' || c == 'z' then some rest.reverse
    else
      let cut := s.length - 6
      match s.drop cut with
      | sign :: clock =>
        if (sign == '+' || sign == '-') && isClock clock then some (s.take cut) else none
      | [] => none
  | [] => none

/-- Whether a text writes a date, a time, or a date and a time with or without an offset. -/
def isMoment (s : List Char) : Bool :=
  let date := s.take 10
  isDate s || isTime s || (isDate date &&
    match s.drop 10 with
    | c :: time =>
      (c == 'T' || c == 't' || c == ' ') && (isTime time || (cutOffset? time).any isTime)
    | [] => false)

end Toml

end MarkdownPages
