import Stencil.Json.Document
/-!
# Values in templates

How values are printed, which of them count as true, and how they are ordered.
-/

namespace Stencil.Json

open Decimal

mutual

/-- The value as a template prints it: texts as they are, null as nothing, and objects without their
members. -/
def printed : Json → List Char
  | .null => []
  | .bool true => "true".toList
  | .bool false => "false".toList
  | .number n => n.toText.toList
  | .text s => s.toList
  | .array items => '[' :: printedItems items ++ [']']
  | .object _ => "[object]".toList

/-- Items with commas and blanks between them. -/
def printedItems : List Json → List Char
  | [] => []
  | [x] => printed x
  | x :: xs => printed x ++ ',' :: ' ' :: printedItems xs

end

/-- Whether the number counts as true; below the normal numbers it is taken for zero. -/
def countsAsTrue : Number → Bool
  | .int n => n != 0
  | .float x => x.isNormal

/-- Whether the value counts as true: null, false, zero and whatever is empty do not. Zero may be asked
to count. -/
def truthy (includeZero : Bool) : Json → Bool
  | .null => false
  | .bool b => b
  | .number n => includeZero || countsAsTrue n
  | .text s => !s.isEmpty
  | .array items => !items.isEmpty
  | .object members => !members.isEmpty

/-- The natural number of a value that is one. -/
def natural? : Json → Option Nat
  | .number (.int n) => if 0 ≤ n then some n.toNat else none
  | _ => none

/-- The text of a value that is one. -/
def text? : Json → Option String
  | .text s => some s
  | _ => none

/-- How many items, members or octets the value has. -/
def size : Json → Nat
  | .array items => items.length
  | .object members => members.length
  | .text s => s.utf8ByteSize
  | _ => 0

/-- The number that a text says as a document would. -/
def numberOf? (s : String) : Option Number :=
  let (negative, cs) := match s.toList with
    | '-' :: cs => (true, cs)
    | cs => (false, cs)
  match readNumber negative cs with
  | .ok (n, []) => n.toNumber?
  | _ => none

/-- The order of two values, if they have one. A text that says a number has an order to numbers. -/
def compareValues : Json → Json → Option Ordering
  | .number m, .number n => some (m.compareTo n)
  | .text s, .text t => some (if s < t then .lt else if s = t then .eq else .gt)
  | .bool a, .bool b => some (compare a.toNat b.toNat)
  | .number m, .text t => (numberOf? t).map m.compareTo
  | .text s, .number n => (numberOf? s).map (·.compareTo n)
  | _, _ => none

end Stencil.Json
