import Stencil.Error
/-!
# Models and schemas

A schema is the name of a project and its models in order; a model has a name, perhaps a parent, and
properties in order. These are plain records: a schema need not be in normal form, and what a call
admits is said by the call.

A model is added under a name of its own, a property under a local identifier of its own. Both
operations leave everything else as it was.
-/

namespace Stencil

/-- A property of a model. -/
structure Property where
  /-- The identifier on the wire. -/
  remoteName : String := ""
  /-- The identifier in generated code. -/
  localName : String := ""
  /-- The type of an element. -/
  typeToken : String := ""
  /-- Whether the property is a collection of elements. -/
  isSet : Bool := false
deriving Repr, DecidableEq, Inhabited

/-- A named data model. -/
structure Model where
  name : String := ""
  /-- The name of the parent. -/
  parent : Option String := none
  properties : List Property := []
deriving Repr, DecidableEq, Inhabited

/-- A project and its models. -/
structure Schema where
  project : String := ""
  models : List Model := []
deriving Repr, DecidableEq, Inhabited

/-- The mark that makes a type token one of a collection. -/
def setMarker : List Char := ['[', ']']

/-- A type token without a mark at its beginning, or else at its end, and whether there was one. -/
def splitSetMarker (token : String) : String × Bool :=
  match setMarker.isPrefixOf? token.toList with
  | some bare => (String.ofList bare, true)
  | none =>
    match setMarker.isSuffixOf? token.toList with
    | some bare => (String.ofList bare, true)
    | none => (token, false)

/-! ## Properties -/

/-- The property with an empty local identifier filled in from the remote one. -/
def Property.withLocalName (p : Property) : Property :=
  if p.localName.isEmpty then { p with localName := p.remoteName } else p

/-- The property with one mark taken off its type. -/
def Property.withoutMarker (p : Property) : Property :=
  match splitSetMarker p.typeToken with
  | (bare, true) => { p with typeToken := bare, isSet := true }
  | (_, false) => p

namespace Model

/-- The model with every local identifier filled in. -/
def withLocalNames (m : Model) : Model :=
  { m with properties := m.properties.map Property.withLocalName }

/-- The first property with the local identifier. -/
def property? (m : Model) (localName : String) : Option Property :=
  m.properties.find? (·.localName == localName)

/-- Adds a property. Its local identifier, or else its remote one, has to be new; a mark on its type
makes it a collection. -/
def addProperty (m : Model) (remote localName type : String) : Except Error Model :=
  if remote.isEmpty && localName.isEmpty then .error (.invalid (.propertyWithoutIdentifier m.name))
  else
    let localName := if localName.isEmpty then remote else localName
    if (m.property? localName).isSome then .error (.duplicate .property localName)
    else
      let (bare, isSet) := splitSetMarker type
      if bare.isEmpty then .error (.invalid (.propertyWithoutType m.name localName))
      else .ok { m with properties := m.properties ++ [⟨remote, localName, bare, isSet⟩] }

/-- What a schema must not have in a model. -/
def flaw? (m : Model) : Option Violation :=
  if m.name.isEmpty then some .modelWithoutName
  else (m.properties.find? (·.remoteName.isEmpty)).map fun p =>
    .propertyWithoutRemote m.name p.typeToken

end Model

namespace Schema

/-- The position of the model with the name. -/
def position? (s : Schema) (name : String) : Option Nat := s.models.findIdx? (·.name == name)

/-- The model with the name. -/
def model? (s : Schema) (name : String) : Option Model := s.models.find? (·.name == name)

/-- The model with the name, which has to be there. -/
def modelNamed (s : Schema) (name : String) : Except Error Model :=
  match s.model? name with
  | some m => .ok m
  | none => .error (.notFound .model name)

/-- The model that a model names as its parent. -/
def parentOf (s : Schema) (m : Model) : Option Model := m.parent.bind s.model?

/-- Appends a model with a new name, its local identifiers filled in. -/
def addModel (s : Schema) (m : Model) : Except Error Schema :=
  if (s.position? m.name).isSome then .error (.duplicate .model m.name)
  else .ok { s with models := s.models ++ [m.withLocalNames] }

/-- Adds a property to the first model with the name. -/
def addProperty (s : Schema) (name remote localName type : String) : Except Error Schema :=
  match s.position? name with
  | none => .error (.notFound .model name)
  | some i =>
    match s.models[i]? with
    | none => .error (.notFound .model name)
    | some m =>
      match m.addProperty remote localName type with
      | .error e => .error e
      | .ok m => .ok { s with models := s.models.set i m }

/-- Every model has a name and every property a remote identifier. -/
def validate (s : Schema) : Except Error Unit :=
  match s.models.findSome? Model.flaw? with
  | some violation => .error (.invalid violation)
  | none => .ok ()

end Schema

end Stencil
