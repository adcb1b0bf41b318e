import MarkdownPages.Numeral.Decimal

/-!
# Floating point numbers of 64 bits

A finite number is a sign, a significand below `2 ^ 53` and an exponent of two that is at least
`-1074`. Unless the exponent is `-1074` the significand is at least `2 ^ 52`, so a number has one
representation.

## Main definitions

* `Binary64` — a finite number
* `Binary64.ofDecimal?` — the number nearest to a decimal one

## Implementation notes

Everything is computed exactly, over fractions of natural numbers. Decimal numbers whose size is
out of the question are told apart first, so that no power of an absurd exponent is computed.
-/

namespace MarkdownPages

/-- The finite number `± significand * 2 ^ exponent`. -/
structure Binary64 where
  negative : Bool
  significand : Nat
  exponent : Int
deriving DecidableEq, Inhabited, Repr

namespace Numeral

/-! ### Fractions -/

/-- The fraction `(n / d) * base ^ k`, as a numerator and a denominator. -/
def scale (base : Nat) (k : Int) (n d : Nat) : Nat × Nat :=
  if 0 ≤ k then (n * base.pow k.toNat, d) else (n, d * base.pow (-k).toNat)

/-- The natural number nearest to `n / d`; a half goes to the even neighbour. -/
def roundHalfEven (n d : Nat) : Nat :=
  let floor := n / d
  let twice := 2 * (n % d)
  if twice < d then floor
  else if d < twice then floor + 1
  else if floor % 2 = 0 then floor else floor + 1

/-- The largest `k` with `2 ^ k ≤ n / d`, for positive `n` and `d`. -/
def floorLog2 (n d : Nat) : Int :=
  let k : Int := (Nat.log2 n : Int) - Nat.log2 d
  let (low, high) := scale 2 k 1 1
  if low * d ≤ n * high then k else k - 1

end Numeral

namespace Binary64

/-- The least exponent. -/
def minExponent : Int := -1074

/-- The greatest exponent. -/
def maxExponent : Int := 971

/-- The least significand that needs all fifty-three bits. -/
def fullSignificand : Nat := 4503599627370496

/-- Zero, with a sign. -/
def zero (negative : Bool) : Binary64 := ⟨negative, 0, minExponent⟩

/-- The number nearest to `± n / d`, unless that is too large. -/
def ofFraction? (negative : Bool) (n d : Nat) : Option Binary64 :=
  let exponent := max (Numeral.floorLog2 n d - 52) minExponent
  let (n, d) := Numeral.scale 2 (-exponent) n d
  let significand := Numeral.roundHalfEven n d
  let (significand, exponent) :=
    if significand = 2 * fullSignificand then (fullSignificand, exponent + 1)
    else (significand, exponent)
  if maxExponent < exponent then none else some ⟨negative, significand, exponent⟩

/-- The number nearest to a decimal one, unless that is too large. -/
def ofDecimal? (x : Decimal) : Option Binary64 :=
  if x.digits = 0 then some (zero x.negative)
  else
    let size : Int := (Nat.log2 x.digits : Int) / 4 + x.exponent
    if 400 < size then none
    else if (Nat.log2 x.digits : Int) / 3 + 1 + x.exponent < -400 then some (zero x.negative)
    else
      let (n, d) := Numeral.scale 10 x.exponent x.digits 1
      ofFraction? x.negative n d

/-- Equality as numbers, which does not tell the two zeros apart. -/
def same (x y : Binary64) : Bool := x = y || (x.significand == 0 && y.significand == 0)

end Binary64

end MarkdownPages
