/-!
# Hexadecimal digits

Numbers as they stand in the escapes of several formats; the letters may have either case.
-/

namespace Stencil.Text

/-- The value of a hexadecimal digit. -/
def hexValue? (c : Char) : Option Nat :=
  if c.isDigit then some (c.toNat - 48)
  else if 'a' ≤ c ∧ c ≤ 'f' then some (c.toNat - 87)
  else if 'A' ≤ c ∧ c ≤ 'F' then some (c.toNat - 55)
  else none

/-- The number that digits say after those that say `high`. -/
def hexNumberFrom? (high : Nat) : List Char → Option Nat
  | [] => some high
  | c :: cs =>
    match hexValue? c with
    | some n => hexNumberFrom? (16 * high + n) cs
    | none => none

/-- The number that hexadecimal digits say. -/
def hexNumber? (digits : List Char) : Option Nat := hexNumberFrom? 0 digits

end Stencil.Text
