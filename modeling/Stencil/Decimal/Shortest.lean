import Stencil.Decimal.Binary64
/-!
# The shortest decimal that reads back

A number is written with the fewest significant digits that still read back as the same number; of
several such decimals the nearest one is taken, and of two equally near the even one. The decimals
that read back are those in an interval around the number that reaches half-way to its neighbours,
its ends included if the significand is even. On each decimal grid only the two neighbours of the
number itself have to be tried: if any point of a grid lies in the interval, one of them does.
-/

namespace Stencil.Decimal

/-- The decimal `digits` · 10 ^ `exponent`. -/
structure Digits where
  digits : Nat
  exponent : Int
deriving Repr, DecidableEq

/-- The greatest `e` with 10 ^ `e` ≤ `num` / `den`, for a ratio that is not below 10 ^ -350. -/
def log10Ratio (num den : Nat) : Int :=
  ((Nat.toDigits 10 (num * tenTo 350 / den)).length : Int) - 351

/-- A positive number and the interval of the ratios that round to it, over one denominator. -/
structure Surroundings where
  low : Nat
  value : Nat
  high : Nat
  den : Nat
  /-- Whether the ends of the interval belong to it. -/
  inclusive : Bool

/-- The surroundings of a positive number: half-way to its neighbours, the lower of which is nearer at a
power of two. -/
def Binary64.surroundings (x : Binary64) : Surroundings :=
  let m := x.significand
  let below := if m = twoTo 52 ∧ Binary64.minExponent < x.exponent then 1 else 2
  let e := x.exponent - 2
  let (up, den) := if 0 ≤ e then (twoTo e.toNat, 1) else (1, twoTo (-e).toNat)
  ⟨(4 * m - below) * up, 4 * m * up, (4 * m + 2) * up, den, m % 2 = 0⟩

/-- Whether `digits` · 10 ^ `exponent` reads back. -/
def Surroundings.holds (s : Surroundings) (d : Digits) : Bool :=
  let (num, scale) :=
    if 0 ≤ d.exponent then (d.digits * tenTo d.exponent.toNat * s.den, 1)
    else (d.digits * s.den, tenTo (-d.exponent).toNat)
  if s.inclusive then s.low * scale ≤ num && num ≤ s.high * scale
  else s.low * scale < num && num < s.high * scale

/-- The decimal of the grid 10 ^ `exponent` that reads back and is nearest to the number. -/
def Surroundings.onGrid? (s : Surroundings) (exponent : Int) : Option Digits :=
  let (num, den) :=
    if 0 ≤ exponent then (s.value, s.den * tenTo exponent.toNat)
    else (s.value * tenTo (-exponent).toNat, s.den)
  let below : Digits := ⟨num / den, exponent⟩
  let above : Digits := ⟨num / den + 1, exponent⟩
  let rest := 2 * (num % den)
  let belowFirst := rest < den || (rest == den && num / den % 2 == 0)
  let (first, second) := if belowFirst then (below, above) else (above, below)
  if s.holds first then some first else if s.holds second then some second else none

/-- The shortest decimal on the grids from `exponent` on down, at most `grids` of them. -/
def Surroundings.search (s : Surroundings) : Nat → Int → Digits
  | 0, exponent => ⟨s.value / s.den, exponent⟩
  | grids + 1, exponent =>
    match s.onGrid? exponent with
    | some d => d
    | none => s.search grids (exponent - 1)

/-- The shortest decimal that reads back as the magnitude of the number. -/
def Binary64.shortest (x : Binary64) : Digits :=
  if x.isZero then ⟨0, 0⟩
  else
    let (num, den) := x.ratio
    x.surroundings.search 17 (log10Ratio num den)

/-! ## As text -/

/-- Significant digits with the point in its place: `point` of them, or zeros for those that there
are not, stand before it. At least one digit stands on either side. -/
def positional (ds : List Char) (point : Int) : List Char :=
  let whole := point.toNat
  if point ≤ 0 then "0.".toList ++ List.replicate (-point).toNat '0' ++ ds
  else if ds.length ≤ whole then ds ++ List.replicate (whole - ds.length) '0' ++ ".0".toList
  else ds.take whole ++ '.' :: ds.drop whole

/-- Significant digits with the point after the first, and an exponent with its sign. -/
def scientific (ds : List Char) (exponent : Int) : List Char :=
  ds.take 1 ++ (if ds.length ≤ 1 then [] else '.' :: ds.drop 1) ++
    ['e', if exponent < 0 then '-' else '+'] ++ Nat.toDigits 10 exponent.natAbs

/-- The significant digits of the shortest decimal, without zeros at the end, and the place of the
point. -/
def Binary64.significant (x : Binary64) : List Char × Int :=
  let all := Nat.toDigits 10 x.shortest.digits
  ((all.reverse.dropWhile (· == '0')).reverse, all.length + x.shortest.exponent)

/-- A magnitude with its sign. -/
def Binary64.signed (x : Binary64) (magnitude : List Char) : String :=
  String.ofList (if x.negative then '-' :: magnitude else magnitude)

/-- The number as text, positional from 10⁻⁵ up to 10¹⁶. -/
def Binary64.toText (x : Binary64) : String :=
  let (ds, point) := x.significant
  x.signed <|
    if x.isZero then "0.0".toList
    else if -5 < point ∧ point ≤ 16 then positional ds point
    else scientific ds (point - 1)

end Stencil.Decimal
