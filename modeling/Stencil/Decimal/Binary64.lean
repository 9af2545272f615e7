import Stencil.Decimal.Powers
/-!
# Binary floating-point numbers

The finite numbers of the format binary64: a sign, a significand below 2⁵³ and a power of two. A
number is in normal form if its significand has its top bit set or its exponent is the least one, so
equal numbers have equal parts, apart from the two zeros.

Arithmetic is exact arithmetic on ratios of natural numbers followed by one rounding to the nearest
number, a tie going to the even significand.
-/

namespace Stencil.Decimal

/-- The number ± `significand` · 2 ^ `exponent`. -/
structure Binary64 where
  negative : Bool
  significand : Nat
  exponent : Int
deriving Repr, DecidableEq

namespace Binary64

/-- The least exponent. -/
def minExponent : Int := -1074

/-- The greatest exponent. -/
def maxExponent : Int := 971

/-- Zero, of either sign. -/
def zero (negative : Bool) : Binary64 := ⟨negative, 0, minExponent⟩

/-- The greatest `e` with 2 ^ `e` ≤ `num` / `den`, for positive numbers. -/
def log2Ratio (num den : Nat) : Int :=
  let e : Int := (num.log2 : Int) - den.log2
  let reached := if 0 ≤ e then den * twoTo e.toNat ≤ num else den ≤ num * twoTo (-e).toNat
  if reached then e else e - 1

/-- The quotient rounded to the nearest natural number, a tie to the even one. -/
def roundDiv (num den : Nat) : Nat :=
  let q := num / den
  let r := num % den
  if 2 * r < den then q else if den < 2 * r then q + 1 else q + q % 2

/-- The number nearest to ± `num` / `den`; nothing beyond the greatest number. -/
def ofRatio (negative : Bool) (num den : Nat) : Option Binary64 :=
  if num = 0 then some (zero negative)
  else
    let e := max (log2Ratio num den - 52) minExponent
    let m := if 0 ≤ e then roundDiv num (den * twoTo e.toNat) else roundDiv (num * twoTo (-e).toNat) den
    let (m, e) := if m = twoTo 53 then (twoTo 52, e + 1) else (m, e)
    if maxExponent < e then none else some ⟨negative, m, e⟩

/-- The magnitude as a numerator and a denominator. -/
def ratio (x : Binary64) : Nat × Nat :=
  if 0 ≤ x.exponent then (x.significand * twoTo x.exponent.toNat, 1)
  else (x.significand, twoTo (-x.exponent).toNat)

/-- The number nearest to an integer. -/
def ofInt (n : Int) : Option Binary64 := ofRatio (n < 0) n.natAbs 1

/-- The product; nothing beyond the greatest number. -/
def mul (x y : Binary64) : Option Binary64 :=
  let (a, b) := x.ratio
  let (c, d) := y.ratio
  ofRatio (x.negative != y.negative) (a * c) (b * d)

/-- The quotient by a number other than zero. -/
def div (x y : Binary64) : Option Binary64 :=
  let (a, b) := x.ratio
  let (c, d) := y.ratio
  ofRatio (x.negative != y.negative) (a * d) (b * c)

/-- The number nearest to a power of ten. -/
def powerOfTen (k : Nat) : Option Binary64 := ofRatio false (tenTo k) 1

/-- Whether the number is zero, of either sign. -/
def isZero (x : Binary64) : Bool := x.significand == 0

/-- Whether the significand has its top bit set. -/
def isNormal (x : Binary64) : Bool := twoTo 52 ≤ x.significand

/-- The number as a multiple of the least positive one. -/
def units (x : Binary64) : Int :=
  let n : Int := x.significand * twoTo (x.exponent - minExponent).toNat
  if x.negative then -n else n

end Binary64

end Stencil.Decimal
