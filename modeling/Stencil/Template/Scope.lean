import Stencil.Template.Expression
import Stencil.Template.Fault
/-!
# Where a template is being executed

A template is executed on data. Blocks that go into the data and inclusions put a frame on a stack: the
place in the data where they stand, or a value of its own, with names for values and variables such as
the position in a loop. References are resolved from the top of the stack; variables are those of the
innermost frame that has them.
-/

namespace Stencil.Template

/-- What a name that a block or an inclusion gives stands for. -/
inductive Binding where
  | value (v : Json)
  /-- The place where the block stands. -/
  | here
deriving Repr, Inhabited

/-- What a block or an inclusion puts on the stack. -/
structure Frame where
  /-- The place in the data. -/
  place : List String := []
  /-- The value that is taken for the data at the place. -/
  base : Option Json := none
  /-- The block's parameters, or the inclusion's parameters with names. -/
  names : List (String × Binding) := []
  /-- The variables of a loop. -/
  locals : List (String × Json) := []
deriving Repr, Inhabited

/-- A value, and its place in the data if it is a part of it. Nothing is a missing value. -/
structure Located where
  value : Option Json
  place : Option (List String) := none
deriving Repr, Inhabited

/-- The value, or null if it is missing. -/
def Located.get (l : Located) : Json := l.value.getD .null

/-- A value that was computed. -/
def Located.computed (v : Json) : Located := ⟨some v, none⟩

/-- The digits of a position, if the name is one. -/
def position? (name : String) : Option Nat :=
  let digits := (name.toList.head?, name.toList.drop 1)
  let cs := if digits.1 == some '+' then digits.2 else name.toList
  if cs.isEmpty || !cs.all Char.isDigit then none
  else
    let n := Json.ofDigits (cs.map fun c => c.toNat - 48)
    if n ≤ Decimal.maxWord then some n else none

/-- One step down from a value. -/
def stepDown (value : Option Json) (name : String) : Except Fault (Option Json) :=
  match value with
  | some (.array items) =>
    match position? name with
    | some i => .ok items[i]?
    | none => .error (.namedItem name)
  | some (.object members) => .ok (Table.get? members name)
  | _ => .ok none

/-- All steps down from a value. -/
def walkDown : Option Json → List String → Except Fault (Option Json)
  | value, [] => .ok value
  | value, name :: names =>
    match stepDown value name with
    | .error fault => .error fault
    | .ok value => walkDown value names

/-- The names among the steps of a reference. -/
def namesOf (segments : List Segment) : List String :=
  segments.filterMap fun
    | .name s => some s
    | _ => none

/-- What a reference goes down from. -/
inductive Start where
  | data
  | value (v : Json)

/-- The value at the end of names from a start. -/
def lookDown (data : Json) (start : Start) (names : List String) : Except Fault Located :=
  match start with
  | .data =>
    (walkDown (some data) names).map fun value =>
      ⟨value, if value.isSome then some names else none⟩
  | .value v => (walkDown (some v) names).map fun value => ⟨value, none⟩

/-- The value at the end of names from a frame; without a frame, from the data. -/
def lookFrom (data : Json) (frame : Option Frame) (names : List String) : Except Fault Located :=
  match frame with
  | some f =>
    match f.base with
    | some v => lookDown data (.value v) names
    | none => lookDown data .data (f.place ++ names)
  | none => lookDown data .data names

/-- The binding of a name by the innermost frame that has one, and the frame's place. -/
def binding? (frames : List Frame) (name : String) : Option (Binding × List String) :=
  frames.findSome? fun f => (f.names.lookup name).map (·, f.place)

/-- What the first step that is not one to the data around binds, if it is a name. -/
def leadingBinding? (frames : List Frame) (segments : List Segment) :
    Option (Binding × List String) :=
  match segments.drop (countUps segments) with
  | .name name :: _ => binding? frames name
  | _ => none

/-- The value of a reference to the data. -/
def resolve (data : Json) (frames : List Frame) (segments : List Segment) : Except Fault Located :=
  let ups := countUps segments
  match leadingBinding? frames segments with
  | some (.value v, _) => lookDown data (.value v) (namesOf (segments.drop (ups + 1)))
  | some (.here, place) => lookDown data .data (place ++ namesOf (segments.drop (ups + 1)))
  | none =>
    let names := namesOf segments
    if 0 < ups then lookFrom data (frames[ups]? <|> frames.head?) names
    else match segments with
      | .root :: _ => lookDown data .data names
      | _ => lookFrom data frames.head? names

/-- The value of a variable, seen from `level` frames up. -/
def variableValue (frames : List Frame) (level : Nat) (name : String) : Located :=
  ⟨(frames.drop level).findSome? (·.locals.lookup name), none⟩

/-- The value of a reference. -/
def Reference.value (data : Json) (frames : List Frame) : Reference → Except Fault Located
  | .data segments => resolve data frames segments
  | .variable level name => .ok (variableValue frames level name)

end Stencil.Template
