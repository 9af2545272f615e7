import Stencil.Proofs.Json.Compact
import Stencil.Schema.Document
/-!
# Schemas written as documents

Every schema value can be written, whether it is in normal form or not, and reading its text gives it back
(`decode_toJson`): no field is left out, and none is read into another. What `Schema.load` makes of such a document is
therefore what `Schema.accept` makes of the value.
-/

namespace Stencil

open Json

/-- Items that were written one by one are read one by one. -/
theorem readAll_itemsToDocument {α β : Type} {reader : Reader β} {write : α → Json} {f : α → β}
    (h : ∀ x, decodeValue reader (write x) = .ok (f x)) (xs : List α) :
    readAll reader (itemsToDocument (xs.map write)) = .ok (xs.map f) := by
  induction xs with
  | nil => rfl
  | cons x xs ih =>
    have hx : reader (write x).toDocument = .ok (f x) := h x
    rw [List.map_cons, itemsToDocument, readAll, hx]
    simp only [ih]
    rfl

theorem readList_array {α β : Type} {reader : Reader β} {write : α → Json} {f : α → β}
    (h : ∀ x, decodeValue reader (write x) = .ok (f x)) (xs : List α) :
    readList reader (.array (itemsToDocument (xs.map write)) none) = .ok (xs.map f) := by
  rw [readList, readAll_itemsToDocument h]
  rfl

/-! ## Properties -/

theorem Property.toJson_eq (p : Property) : p.toJson =
    .object [("IsSetType", .bool p.isSet), ("LocalIdentifier", .text p.localName),
      ("PropertyType", .text p.typeToken), ("RemoteIdentifier", .text p.remoteName)] := rfl

theorem Property.numberless_toJson (p : Property) : Numberless p.toJson := by
  simp [toJson_eq, Numberless, NumberlessMembers]

theorem Property.decodeValue_toJson (p : Property) : decodeValue Property.read p.toJson = .ok p := by
  simp [decodeValue, toJson_eq, Property.read, toDocument, membersToDocument, readRecord, fillByName, Field.of, readText,
    readBool, Except.map, ending]

/-! ## Models -/

theorem Model.toJson_eq (m : Model) : m.toJson =
    .object [("Name", .text m.name), ("Parent", optionalText m.parent),
      ("Properties", .array (m.properties.map Property.toJson))] := rfl

theorem numberless_optionalText (s? : Option String) : Numberless (optionalText s?) := by
  cases s? <;> simp [optionalText, Numberless]

theorem Model.numberless_toJson (m : Model) : Numberless m.toJson := by
  simp [toJson_eq, Numberless, NumberlessMembers, numberless_optionalText, numberlessItems_iff,
    Property.numberless_toJson]

theorem readOptional_optionalText (s? : Option String) :
    readOptional readText (optionalText s?).toDocument = .ok s? := by
  cases s? <;> rfl

theorem Model.decodeValue_toJson (m : Model) : decodeValue Model.read m.toJson = .ok m := by
  have hproperties := readList_array (f := id) Property.decodeValue_toJson m.properties
  rw [List.map_id] at hproperties
  simp [decodeValue, toJson_eq, Model.read, toDocument, membersToDocument, readRecord, fillByName, Field.of, readText,
    Except.map, ending, readOptional_optionalText, hproperties]

/-! ## Schemas -/

namespace Schema

theorem toJson_eq (s : Schema) : s.toJson =
    .object [("Models", .array (s.models.map Model.toJson)), ("Project", .text s.project)] := rfl

theorem numberless_toJson (s : Schema) : Numberless s.toJson := by
  simp [toJson_eq, Numberless, NumberlessMembers, numberlessItems_iff, Model.numberless_toJson]

/-- A schema is read from the text that it is written as. -/
theorem decode_toJson (s : Schema) : decode Schema.read s.toJson.compact = .ok s := by
  have hmodels := readList_array (f := id) Model.decodeValue_toJson s.models
  rw [List.map_id] at hmodels
  rw [decode_compact Schema.read s.numberless_toJson]
  simp [decodeValue, toJson_eq, Schema.read, toDocument, membersToDocument, readRecord, fillByName, Field.of, readText,
    Except.map, ending, hmodels]

theorem load_of_decode {document : String} {s : Schema} (h : decode Schema.read document = .ok s) :
    load document = s.accept := by
  rw [load, h]

end Schema

end Stencil
