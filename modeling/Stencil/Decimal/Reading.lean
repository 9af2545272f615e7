import Stencil.Decimal.Binary64
/-!
# Reading decimal numbers

`Scientific.toNumber?` is the reading of numbers in documents: the digits are gathered into a word of 64
bits as long as they fit, and the word is scaled by powers of ten, one rounding at a time.

Numbers are ordered by their exact values: an integer is not rounded to be compared.
-/

namespace Stencil.Decimal

/-- The parts of a decimal number as written. -/
structure Scientific where
  negative : Bool
  /-- The digits before the point. -/
  whole : List Nat
  /-- The digits after the point, if there is one. -/
  fraction : Option (List Nat)
  /-- The exponent, if there is one. -/
  exponent : Option Int
deriving Repr, DecidableEq

/-- The greatest word. -/
def maxWord : Nat := twoTo 64 - 1

/-- Appends digits to a word as long as they fit; hands back the digits left over. -/
def gather (word : Nat) : List Nat → Nat × List Nat
  | [] => (word, [])
  | d :: ds => if word * 10 + d ≤ maxWord then gather (word * 10 + d) ds else (word, d :: ds)

/-- The greatest power of ten that one multiplication or division takes. -/
def greatestStep : Nat := 308

/-- The number divided so often by the greatest power of ten; zero stays zero. -/
def divideRepeatedly (x : Binary64) : Nat → Option Binary64
  | 0 => some x
  | n + 1 =>
    if x.isZero then some x
    else ((Binary64.powerOfTen greatestStep).bind x.div).bind (divideRepeatedly · n)

/-- Divides by ten to the power `k`, by the greatest power of ten as long as more than one step is
left. -/
def scaleDown (x : Binary64) (k : Nat) : Option Binary64 :=
  let steps := (k - 1) / greatestStep
  (divideRepeatedly x steps).bind fun y =>
    (Binary64.powerOfTen (k - steps * greatestStep)).bind y.div

/-- Multiplies a number by a power of ten; nothing beyond the greatest number. -/
def scale (x : Binary64) (e : Int) : Option Binary64 :=
  if e < 0 then scaleDown x e.natAbs
  else if x.isZero then some x
  else if greatestStep < e then none
  else (Binary64.powerOfTen e.toNat).bind x.mul

/-- A number as documents write it. -/
inductive Number where
  /-- An integer from -2⁶³ up to 2⁶⁴ - 1. -/
  | int (n : Int)
  | float (x : Binary64)
deriving Repr, DecidableEq

/-- The number that is written; nothing beyond the greatest number. An integer that fits no word and
minus zero are floating-point numbers. -/
def Scientific.toNumber? (s : Scientific) : Option Number :=
  let (word, left) := gather 0 s.whole
  let signed (x : Option Binary64) := x.map fun x => .float { x with negative := s.negative }
  match s.fraction, s.exponent with
  | none, none =>
    if left.isEmpty then
      if !s.negative then some (.int word)
      else if word = 0 ∨ twoTo 63 < word then signed (Binary64.ofInt word)
      else some (.int (-word))
    else signed ((Binary64.ofInt word).bind (scale · left.length))
  | fraction, exponent =>
    let digits := fraction.getD []
    let (word, ignored) := gather word digits
    let e : Int := left.length - (digits.length - ignored.length) + exponent.getD 0
    signed ((Binary64.ofInt word).bind (scale · e))

/-- The value of a number as a multiple of the least positive floating-point number. -/
def Number.units : Number → Int
  | .int n => n * twoTo (-Binary64.minExponent).toNat
  | .float x => x.units

/-- The order by value, integers and floating-point numbers alike. -/
def Number.compareTo (m n : Number) : Ordering := compare m.units n.units

end Stencil.Decimal
