import Stencil.Decimal.Reading
import Stencil.Decimal.Shortest
import Stencil.Table
/-!
# JSON values

The values that templates compute with. An object holds its members in ascending order of their
names, so two objects are equal if their members are. Numbers of different kinds are never equal,
and of the two floating-point zeros each equals the other.

`Json.compact` writes a value without blanks.
-/

namespace Stencil

open Decimal

/-- A JSON value. -/
inductive Json where
  | null
  | bool (b : Bool)
  | number (n : Number)
  | text (s : String)
  | array (items : List Json)
  | object (members : List (String × Json))
deriving Repr, Inhabited

/-- Equality of numbers. -/
def Decimal.Number.same : Number → Number → Bool
  | .int m, .int n => m == n
  | .float x, .float y => x == y || (x.isZero && y.isZero)
  | _, _ => false

/-- A number as JSON writes it. -/
def Decimal.Number.toText : Number → String
  | .int n => toString n
  | .float x => x.toText

namespace Json

/-- An object of entries in any order. -/
def ofEntries (entries : List (String × Json)) : Json := .object (Table.ofList entries)

mutual

/-- Equality of values. -/
def same : Json → Json → Bool
  | .null, .null => true
  | .bool a, .bool b => a == b
  | .number m, .number n => m.same n
  | .text s, .text t => s == t
  | .array xs, .array ys => sameItems xs ys
  | .object xs, .object ys => sameMembers xs ys
  | _, _ => false

/-- Equality of items in their order. -/
def sameItems : List Json → List Json → Bool
  | [], [] => true
  | x :: xs, y :: ys => same x y && sameItems xs ys
  | _, _ => false

/-- Equality of members in their order. -/
def sameMembers : List (String × Json) → List (String × Json) → Bool
  | [], [] => true
  | (m, x) :: xs, (n, y) :: ys => m == n && same x y && sameMembers xs ys
  | _, _ => false

end

/-- A character inside a JSON string. -/
def escapeChar (c : Char) : List Char :=
  match c with
  | '"' => ['\\', '"']
  | '\\' => ['\\', '\\']
  | '\x08' => ['\\', 'b']
  | '\x0c' => ['\\', 'f']
  | '\n' => ['\\', 'n']
  | '\r' => ['\\', 'r']
  | '\t' => ['\\', 't']
  | c =>
    if c.toNat < 32 then
      ['\\', 'u', '0', '0', Nat.digitChar (c.toNat / 16), Nat.digitChar (c.toNat % 16)]
    else [c]

/-- A JSON string. -/
def quote (s : String) : List Char := '"' :: s.toList.flatMap escapeChar ++ ['"']

mutual

/-- A value without blanks. -/
def compactChars : Json → List Char
  | .null => "null".toList
  | .bool true => "true".toList
  | .bool false => "false".toList
  | .number n => n.toText.toList
  | .text s => quote s
  | .array items => '[' :: compactItems items ++ [']']
  | .object members => '\x7b' :: compactMembers members ++ ['\x7d']

/-- Items with commas between them. -/
def compactItems : List Json → List Char
  | [] => []
  | [x] => compactChars x
  | x :: xs => compactChars x ++ ',' :: compactItems xs

/-- Members with commas between them. -/
def compactMembers : List (String × Json) → List Char
  | [] => []
  | [(name, x)] => quote name ++ ':' :: compactChars x
  | (name, x) :: xs => quote name ++ ':' :: compactChars x ++ ',' :: compactMembers xs

end

/-- The value as text without blanks. -/
def compact (value : Json) : String := String.ofList value.compactChars

end Json

end Stencil
