import Stencil.Toml.Text
/-!
# Scalars of TOML documents

A scalar is a value without quotes or brackets: a truth value, a number or a moment. A moment is a
date, a time of day, or both, and then perhaps with the distance of its clocks from universal time.

`isScalar` says which texts are scalars, whatever the size of a number, and `readScalar` reads one.
-/

namespace Stencil.Toml

/-! ## Numbers -/

/-- The text without a sign at its beginning. -/
def dropSign : List Char → List Char
  | '+' :: cs => cs
  | '-' :: cs => cs
  | cs => cs

/-- At least one digit of a class, with single underscores between digits. -/
def areDigits (isDigit : Char → Bool) : List Char → Bool
  | [] => false
  | [c] => isDigit c
  | c :: '_' :: cs => isDigit c && areDigits isDigit cs
  | c :: cs => isDigit c && areDigits isDigit cs

/-- A character among decimal digits. -/
def isDigitChar (c : Char) : Bool := c.isDigit || c == '_'

/-- A whole decimal number without a sign; zero alone begins with a zero. -/
def isWhole (cs : List Char) : Bool :=
  areDigits Char.isDigit cs && (cs.head? != some '0' || cs.length == 1)

/-- What follows the fraction of a number: nothing, or a power of ten. -/
def isPower : List Char → Bool
  | [] => true
  | c :: cs => (c == 'e' || c == 'E') && areDigits Char.isDigit (dropSign cs)

/-- What follows the whole part of a number. -/
def isFraction : List Char → Bool
  | '.' :: cs => areDigits Char.isDigit (cs.takeWhile isDigitChar) && isPower (cs.dropWhile isDigitChar)
  | cs => isPower cs

/-- A decimal number without a sign, or a name of a number that has no digits. -/
def isDecimal (cs : List Char) : Bool :=
  cs == "inf".toList || cs == "nan".toList ||
    (isWhole (cs.takeWhile isDigitChar) && isFraction (cs.dropWhile isDigitChar))

/-- A hexadecimal digit. -/
def isHexDigit (c : Char) : Bool := (Text.hexValue? c).isSome

/-- Digits after the sign of their base, which may also stand alone. -/
def areBaseDigits (isDigit : Char → Bool) (cs : List Char) : Bool :=
  cs.isEmpty || areDigits isDigit cs

/-- A number. -/
def isNumber : List Char → Bool
  | '0' :: 'x' :: cs => areBaseDigits isHexDigit cs
  | '0' :: 'o' :: cs => areBaseDigits (fun c => '0' ≤ c && c ≤ '7') cs
  | '0' :: 'b' :: cs => areBaseDigits (fun c => c == '0' || c == '1') cs
  | cs => isDecimal (dropSign cs)

/-! ## Moments -/

/-- A number of so many digits that lies between two bounds. -/
def readField (width low high : Nat) : Reader Nat := fun cs =>
  let digits := cs.take width
  let n := digits.foldl (fun n c => 10 * n + (c.toNat - '0'.toNat)) 0
  if digits.length == width && digits.all Char.isDigit && low ≤ n && n ≤ high then
    some (n, cs.drop width)
  else none

/-- A number of two digits after a mark. -/
def readNext (mark : Char) (low high : Nat) : Reader Nat
  | [] => none
  | c :: cs => if c == mark then readField 2 low high cs else none

/-- Whether a year has a day more than others. -/
def isLeap (year : Nat) : Bool := year % 4 == 0 && (year % 100 != 0 || year % 400 == 0)

/-- How many days a month has. -/
def daysIn (year month : Nat) : Nat :=
  if month == 2 then if isLeap year then 29 else 28
  else if [4, 6, 9, 11].contains month then 30
  else 31

/-- The text after a date. -/
def afterDate? (cs : List Char) : Option (List Char) := do
  let (year, cs) ← readField 4 0 9999 cs
  let (month, cs) ← readNext '-' 1 12 cs
  let (_, cs) ← readNext '-' 1 (daysIn year month) cs
  return cs

/-- The text after a time of day, which may leave out the seconds. -/
def afterTime? (cs : List Char) : Option (List Char) := do
  let (_, cs) ← readField 2 0 23 cs
  let (_, cs) ← readNext ':' 0 59 cs
  match readNext ':' 0 60 cs with
  | some (_, '.' :: cs) =>
    if cs.head?.any Char.isDigit then return cs.dropWhile Char.isDigit else none
  | some (_, cs) => return cs
  | none => if cs.head? == some ':' then none else return cs

/-- What follows a date and a time: nothing, or how far from universal time the clocks are. -/
def isOffset : List Char → Bool
  | [] => true
  | ['Z'] => true
  | ['z'] => true
  | c :: cs =>
    (c == '+' || c == '-') &&
      match readField 2 0 23 cs with
      | some (_, cs) => (readNext ':' 0 59 cs).any (·.2.isEmpty)
      | none => false

/-- A date, a time of day, or both. -/
def isMoment (cs : List Char) : Bool :=
  match afterDate? cs with
  | some [] => true
  | some (c :: cs) => [' ', 'T', 't'].contains c && (afterTime? cs).any isOffset
  | none => (afterTime? cs).any List.isEmpty

/-! ## Scalars -/

/-- A truth value, a number or a moment. -/
def isScalar (cs : List Char) : Bool :=
  cs == "true".toList || cs == "false".toList || isNumber cs || isMoment cs

/-- The characters of scalars, but for the blank in a moment. -/
def isScalarChar (c : Char) : Bool := c.isAlphanum || ['+', '-', '_', '.', ':'].contains c

/-- A scalar, as it is written. -/
def readScalar : Reader String := fun cs =>
  let word := cs.takeWhile isScalarChar
  let rest := cs.dropWhile isScalarChar
  let goesOn := (afterDate? word).any List.isEmpty && rest.head? == some ' ' &&
    (rest.drop 1).head?.any Char.isDigit
  let (word, rest) :=
    if goesOn then
      (word ++ ' ' :: (rest.drop 1).takeWhile isScalarChar, (rest.drop 1).dropWhile isScalarChar)
    else (word, rest)
  if isScalar word then some (String.ofList word, rest) else none

end Stencil.Toml
