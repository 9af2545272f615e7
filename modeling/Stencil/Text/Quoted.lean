import Stencil.Text.Case
import Stencil.Text.Property.Printable
/-!
# Quoted text in diagnostics

A diagnostic shows a text between double quotes, on one line and without invisible characters: a
character with no glyph of its own is written by its code point in hexadecimal digits, between
braces.
-/

namespace Stencil.Text

open Property

/-- Whether a diagnostic shows the character as it is. -/
def isShown (c : Char) : Bool :=
  if c.toNat < 128 then 32 ≤ c.toNat && c.toNat < 127
  else !([combiningRanges, fillerRanges, unprintableRanges].any (inRanges · c.toNat))

/-- The code point in lower-case hexadecimal digits, without leading zeros. -/
def hexDigits (n : Nat) : List Char := Nat.toDigits 16 n

/-- A character between the quotes. -/
def quoteChar (c : Char) : List Char :=
  match c with
  | '\x00' => ['\\', '0']
  | '\t' => ['\\', 't']
  | '\r' => ['\\', 'r']
  | '\n' => ['\\', 'n']
  | '"' => ['\\', '"']
  | '\\' => ['\\', '\\']
  | c => if isShown c then [c] else ['\\', 'u', '\x7b'] ++ hexDigits c.toNat ++ ['\x7d']

/-- The text between double quotes. -/
def quoted (s : String) : String :=
  String.ofList ('"' :: s.toList.flatMap quoteChar ++ ['"'])

end Stencil.Text
