import Stencil.Bytes.Basic
/-!
# Where octets stop being UTF-8

The first place at which octets are not the UTF-8 form of a text: either a sequence there is broken,
after so many octets that were still right, or the octets end inside it.
-/

namespace Stencil.Bytes

/-- What is wrong with octets that are not UTF-8. -/
inductive Utf8Fault where
  /-- The sequence at `index` is wrong after its first `length` octets. -/
  | broken (length index : Nat)
  /-- The octets end inside the sequence at `index`. -/
  | cutShort (index : Nat)
deriving Repr, DecidableEq

/-- The fault in words. -/
def Utf8Fault.message : Utf8Fault → String
  | broken length index => s!"invalid utf-8 sequence of {length} bytes from index {index}"
  | cutShort index => s!"incomplete utf-8 byte sequence from index {index}"

/-- The intervals in which the octets after a first octet lie; nothing if no sequence starts so. -/
def continuations (first : UInt8) : Option (List (UInt8 × UInt8)) :=
  let any := (0x80, 0xBF)
  if first < 0x80 then some []
  else if first < 0xC2 then none
  else if first < 0xE0 then some [any]
  else if first = 0xE0 then some [(0xA0, 0xBF), any]
  else if first = 0xED then some [(0x80, 0x9F), any]
  else if first < 0xF0 then some [any, any]
  else if first = 0xF0 then some [(0x90, 0xBF), any, any]
  else if first < 0xF4 then some [any, any, any]
  else if first = 0xF4 then some [(0x80, 0x8F), any, any]
  else none

/-- The fault of the sequence at `index` whose first `seen` octets are right, if it has one. -/
def faultInside (index seen : Nat) : List (UInt8 × UInt8) → Bytes → Option Utf8Fault
  | [], _ => none
  | _ :: _, [] => some (.cutShort index)
  | (lo, hi) :: intervals, b :: bytes =>
    if lo ≤ b && b ≤ hi then faultInside index (seen + 1) intervals bytes
    else some (.broken seen index)

/-- The first fault of the octets, the first of which stands at `index`. -/
def firstFault (index : Nat) : Bytes → Option Utf8Fault
  | [] => none
  | first :: bytes =>
    match continuations first with
    | none => some (.broken 1 index)
    | some intervals =>
      match faultInside index 1 intervals bytes with
      | some fault => some fault
      | none => firstFault (index + 1 + intervals.length) (bytes.drop intervals.length)
termination_by bytes => bytes.length
decreasing_by simp only [List.length_drop, List.length_cons]; omega

/-- The text of the octets, or what is wrong with them. -/
def toText (bytes : Bytes) : Except Utf8Fault String :=
  match bytes.toText? with
  | some s => .ok s
  | none => .error ((firstFault 0 bytes).getD (.cutShort bytes.length))

theorem toText_eq_ok_iff {bytes : Bytes} {s : String} : bytes.toText = .ok s ↔ ofText s = bytes := by
  unfold toText
  rw [← toText?_eq_some_iff]
  split <;> simp [*]

end Stencil.Bytes
