import Stencil.Schema.Basic
/-!
# Schema documents

A schema as a JSON document: how it is written, how it is read, and the normal form that an accepted
document is brought to. Reading by itself admits every schema value; `Schema.load` also demands names,
remote identifiers, and names and local identifiers that are unique, and takes marks off type tokens.
-/

namespace Stencil

open Json

/-! ## Reading -/

/-- Reads a property. -/
def Property.read : Reader Property :=
  readRecord "ModelProperty"
    [ .of "RemoteIdentifier" readText fun p s => { p with remoteName := s },
      .of "LocalIdentifier" readText fun p s => { p with localName := s },
      .of "PropertyType" readText fun p s => { p with typeToken := s },
      .of "IsSetType" readBool fun p b => { p with isSet := b } ] {}

/-- Reads a model. -/
def Model.read : Reader Model :=
  readRecord "Model"
    [ .of "Name" readText fun m s => { m with name := s },
      .of "Parent" (readOptional readText) fun m s => { m with parent := s },
      .of "Properties" (readList Property.read) fun m ps => { m with properties := ps } ] {}

/-- Reads a schema. -/
def Schema.read : Reader Schema :=
  readRecord "Schema"
    [ .of "Project" readText fun s t => { s with project := t },
      .of "Models" (readList Model.read) fun s ms => { s with models := ms } ] {}

/-! ## Writing -/

/-- A property with all its fields. -/
def Property.toJson (p : Property) : Json :=
  .ofEntries [("RemoteIdentifier", .text p.remoteName), ("LocalIdentifier", .text p.localName),
    ("PropertyType", .text p.typeToken), ("IsSetType", .bool p.isSet)]

/-- A text, or null. -/
def optionalText : Option String → Json
  | some s => .text s
  | none => .null

/-- A model with all its fields. -/
def Model.toJson (m : Model) : Json :=
  .ofEntries [("Name", .text m.name), ("Parent", optionalText m.parent),
    ("Properties", .array (m.properties.map Property.toJson))]

/-- A schema with all its fields. -/
def Schema.toJson (s : Schema) : Json :=
  .ofEntries [("Project", .text s.project), ("Models", .array (s.models.map Model.toJson))]

/-! ## The normal form -/

/-- The first text that stands in the list already, or in `seen`. -/
def firstRepeated? (seen : List String) : List String → Option String
  | [] => none
  | s :: rest => if seen.contains s then some s else firstRepeated? (s :: seen) rest

/-- The model with an empty parent dropped, its local identifiers filled in and pairwise different,
and the marks taken off its types. -/
def Model.normalize (m : Model) : Except Error Model :=
  let filled := { m with parent := m.parent.filter (!·.isEmpty) }.withLocalNames
  match firstRepeated? [] (filled.properties.map (·.localName)) with
  | some name => .error (.duplicate .property name)
  | none => .ok { filled with properties := filled.properties.map Property.withoutMarker }

/-- The models in normal form, none of whose names occurs before it or in `seen`. -/
def normalizeModels (seen : List String) : List Model → Except Error (List Model)
  | [] => .ok []
  | m :: rest =>
    if seen.contains m.name then .error (.duplicate .model m.name)
    else match m.normalize with
      | .error e => .error e
      | .ok m => (normalizeModels (m.name :: seen) rest).map (m :: ·)

/-- The schema in normal form. -/
def Schema.normalize (s : Schema) : Except Error Schema :=
  (normalizeModels [] s.models).map fun models => { s with models }

/-- The schema that is accepted for a schema value: it has to be valid, and gets its normal form. -/
def Schema.accept (s : Schema) : Except Error Schema :=
  match s.validate with
  | .error e => .error e
  | .ok () => s.normalize

/-- The schema of a document, in normal form. -/
def Schema.load (document : String) : Except Error Schema :=
  match decode Schema.read document with
  | .error fault => .error (.schema fault)
  | .ok s => s.accept

end Stencil
