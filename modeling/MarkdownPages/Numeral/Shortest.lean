import MarkdownPages.Numeral.Binary64

/-!
# The shortest decimal that reads back

The decimal numbers that read back as a given floating point number form an interval around it,
whose ends belong to it when the significand is even. Of the decimals in the interval, the one
with the fewest digits is written, and of several with as few digits the nearest.

## Main definitions

* `Binary64.shortest` — the digits and the power of ten of that decimal
* `Binary64.text` — the decimal in positional notation, or with an exponent when it is very large
  or very small

## Implementation notes

On the grid of decimals with `k` digits only the two neighbours of the number matter: if any
point of the grid lies in the interval, one of them does.
-/

namespace MarkdownPages

namespace Numeral

/-- The largest `k` with `10 ^ k ≤ n / d`, for positive `n` and `d`. -/
def floorLog10 (n d : Nat) : Int :=
  let estimate := Int.fdiv (floorLog2 n d * 30103) 100000
  let reaches := fun k =>
    let (low, high) := scale 10 k 1 1
    decide (low * d ≤ n * high)
  if reaches (estimate + 1) then estimate + 1
  else if reaches estimate then estimate
  else estimate - 1

/-- The decimal digits of a number, and nothing for zero. -/
def digitsOf (n : Nat) : List Char := if n = 0 then [] else Nat.toDigits 10 n

end Numeral

namespace Binary64

/-- A number with the interval of those that round to it, as numerators over one denominator. -/
structure Interval where
  low : Nat
  value : Nat
  high : Nat
  denominator : Nat
  /-- Whether the ends belong to the interval. -/
  closed : Bool
deriving Repr

namespace Interval

/-- Whether the point `n / d` lies in the interval, for numerators over `denominator * d`. -/
def contains (i : Interval) (n : Nat) : Bool :=
  if i.closed then i.low ≤ n && n ≤ i.high else i.low < n && n < i.high

/-- The interval times `10 ^ k`. -/
def scale (i : Interval) (k : Int) : Interval :=
  if 0 ≤ k then
    let factor := Nat.pow 10 k.toNat
    { i with low := i.low * factor, value := i.value * factor, high := i.high * factor }
  else { i with denominator := i.denominator * Nat.pow 10 (-k).toNat }

/-- The whole number in the interval that is nearest to its value, if one of the two neighbours
of the value lies in the interval; of two as near, the even one. -/
def nearestWhole? (i : Interval) : Option Nat :=
  let floor := i.value / i.denominator
  let below := floor * i.denominator
  let above := below + i.denominator
  match i.contains below, i.contains above with
  | false, false => none
  | true, false => some floor
  | false, true => some (floor + 1)
  | true, true => some (Numeral.roundHalfEven i.value i.denominator)

end Interval

/-- The interval of a number other than zero. The lower end is nearer when the number is the
least with its exponent. -/
def interval (x : Binary64) : Interval :=
  let narrow := x.significand = fullSignificand ∧ minExponent < x.exponent
  let whole (n : Nat) : Nat × Nat := Numeral.scale 2 (x.exponent - 2) n 1
  { low := (whole (4 * x.significand - if narrow then 1 else 2)).1
    value := (whole (4 * x.significand)).1
    high := (whole (4 * x.significand + 2)).1
    denominator := (whole 0).2
    closed := x.significand % 2 = 0 }

/-- Digits and a power of ten: the shortest decimal that reads back as a number other than
zero. Seventeen digits are always enough. -/
def shortest (x : Binary64) : Nat × Int :=
  let i := x.interval
  let top := Numeral.floorLog10 i.value i.denominator
  let found := (List.range 17).findSome? fun (k : Nat) =>
    let unit := top - k
    (i.scale (-unit)).nearestWhole?.map fun digits => (digits, unit)
  found.getD (0, 0)

/-- The digits of the shortest decimal, without zeros at the end, and the place of the point:
the number is `0.digits * 10 ^ place`. -/
def shortestDigits (x : Binary64) : List Char × Int :=
  let (digits, unit) := x.shortest
  let written := Numeral.digitsOf digits
  ((written.reverse.dropWhile (· == '0')).reverse, written.length + unit)

/-- Zeros. -/
def zeros (n : Nat) : List Char := List.replicate n '0'

/-- The absolute value of a number as text. Up to sixteen digits before the point and four zeros
behind it are written out; beyond that there is an exponent. Whole numbers that are written out
end in a zero behind the point. -/
def magnitudeText (x : Binary64) : List Char :=
  if x.significand = 0 then ['0', '.', '0']
  else
    let (digits, place) := x.shortestDigits
    if 0 < place ∧ place ≤ 16 then
      let n := place.toNat
      if digits.length ≤ n then digits ++ zeros (n - digits.length) ++ ['.', '0']
      else digits.take n ++ ['.'] ++ digits.drop n
    else if -5 < place ∧ place ≤ 0 then ['0', '.'] ++ zeros (-place).toNat ++ digits
    else
      let mantissa := match digits with
        | [] => []
        | [d] => [d]
        | d :: rest => d :: '.' :: rest
      mantissa ++ ['e'] ++ (toString (place - 1)).toList

/-- The text of a number. -/
def text (x : Binary64) : String :=
  String.ofList (if x.negative then '-' :: x.magnitudeText else x.magnitudeText)

end Binary64

end MarkdownPages
