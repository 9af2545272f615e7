import Stencil.Json.Document
import Stencil.Text.Quoted
/-!
# Typed reading of documents

A document is read as a text, a truth value, a list or a record. A record is written as an object,
whose unknown members are passed over and whose missing fields keep their defaults, or as an array of
its fields in order, the trailing ones optional.

`Fault.message` says what is wrong with the type of a value.
-/

namespace Stencil.Json

open Decimal

/-- The kind of a value where another kind is wanted; a mistake in the value comes first. -/
def Document.mismatch (wanted : Wanted) : Document → Fault
  | .null => .mismatch .null wanted
  | .bool b => .mismatch (.bool b) wanted
  | .number (some n) => .mismatch (.number n) wanted
  | .number none => .malformed
  | .text (some s) => .mismatch (.text s) wanted
  | .text none => .malformed
  | .array _ _ => .mismatch .array wanted
  | .object _ _ => .mismatch .object wanted
  | .broken mistake => mistake.used

/-- A reader of documents of one type. -/
abbrev Reader (α : Type) := Document → Except Fault α

/-- A text. -/
def readText : Reader String
  | .text (some s) => .ok s
  | d => .error (d.mismatch .text)

/-- A truth value. -/
def readBool : Reader Bool
  | .bool b => .ok b
  | d => .error (d.mismatch .bool)

/-- Null, or what the reader reads. -/
def readOptional {α : Type} (reader : Reader α) : Reader (Option α)
  | .null => .ok none
  | d => (reader d).map some

/-- The values of items, in order. -/
def readAll {α : Type} (reader : Reader α) : List Document → Except Fault (List α)
  | [] => .ok []
  | item :: items =>
    match reader item with
    | .error fault => .error fault
    | .ok x => (readAll reader items).map (x :: ·)

/-- A list. -/
def readList {α : Type} (reader : Reader α) : Reader (List α)
  | .array items mistake? =>
    match readAll reader items, ending mistake? with
    | .error fault, _ => .error fault
    | .ok _, .error fault => .error fault
    | .ok xs, .ok () => .ok xs
  | d => .error (d.mismatch .array)

/-- A field of records: its name, and how a document fills it in. -/
structure Field (σ : Type) where
  name : String
  fill : σ → Document → Except Fault σ

/-- The field that a reader fills in. -/
def Field.of {σ α : Type} (name : String) (reader : Reader α) (set : σ → α → σ) : Field σ :=
  ⟨name, fun record d => (reader d).map (set record)⟩

/-- Fills in fields from items in order; `length` is the length of the whole array. -/
def fillInOrder {σ : Type} (length : Nat) (mistake? : Option Mistake) :
    List (Field σ) → List Document → σ → Except Fault σ
  | [], [], record => (ending mistake?).map fun () => record
  | [], _ :: _, _ => .error (.excess length)
  | _ :: _, [], record => (ending mistake?).map fun () => record
  | field :: fields, item :: items, record =>
    match field.fill record item with
    | .error fault => .error fault
    | .ok record => fillInOrder length mistake? fields items record

/-- Fills in fields from members; `seen` are the names of the fields that are filled in already. -/
def fillByName {σ : Type} (fields : List (Field σ)) (mistake? : Option Mistake) :
    List String → List (Option String × Document) → σ → Except Fault σ
  | _, [], record => (ending mistake?).map fun () => record
  | _, (none, _) :: _, _ => .error .malformed
  | seen, (some name, value) :: members, record =>
    match fields.find? (·.name == name) with
    | none =>
      match value.skip with
      | .error fault => .error fault
      | .ok () => fillByName fields mistake? seen members record
    | some field =>
      if seen.contains name then .error (.repeated name)
      else match field.fill record value with
        | .error fault => .error fault
        | .ok record => fillByName fields mistake? (name :: seen) members record

/-- A record with the given name, fields and defaults. -/
def readRecord {σ : Type} (name : String) (fields : List (Field σ)) (defaults : σ) : Reader σ
  | .array items mistake? => fillInOrder items.length mistake? fields items defaults
  | .object members mistake? => fillByName fields mistake? [] members defaults
  | d => .error (d.mismatch (.record name))

/-- Reads a whole text: nothing but gaps may follow the value. -/
def decode {α : Type} (reader : Reader α) (text : String) : Except Fault α :=
  let (d, rest) := Document.read text.toList
  match reader d with
  | .error fault => .error fault
  | .ok x => if (skipGap rest).isEmpty then .ok x else .error .malformed

/-- Reads a value. -/
def decodeValue {α : Type} (reader : Reader α) (value : Json) : Except Fault α :=
  reader value.toDocument

/-! ## Faults in words -/

/-- The kind of a value in words. -/
def Found.describe : Found → String
  | .null => "null"
  | .bool b => s!"boolean `{b}`"
  | .number (.int n) => s!"integer `{n}`"
  | .number (.float x) => s!"floating point `{x.toText}`"
  | .text s => "string " ++ Text.quoted s
  | .array => "sequence"
  | .object => "map"

/-- The wanted kind in words. -/
def Wanted.describe : Wanted → String
  | .text => "a string"
  | .bool => "a boolean"
  | .array => "a sequence"
  | .record name => s!"struct {name}"

/-- The fault in words. -/
def Fault.message : Fault → String
  | .malformed => "malformed document"
  | .cutShort => "unexpected end of document"
  | .mismatch found wanted => s!"invalid type: {found.describe}, expected {wanted.describe}"
  | .excess length => s!"invalid length {length}, expected fewer elements in array"
  | .repeated field => s!"duplicate field `{field}`"

end Stencil.Json
