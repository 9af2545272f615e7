import Stencil.Bytes.Sha256
import Stencil.Schema.Document
import Stencil.Template.Fault
import Stencil.Template.Scope
import Stencil.Template.Values
import Stencil.Text.Naming
import Stencil.Text.Plural
import Stencil.Types.Custom
import Stencil.Types.Dictionary
/-!
# Helpers that compute values

A helper makes a value of its parameters. Most are functions of them; those for custom types also read
or change the types that the templates have declared. Where a text is wanted, a missing value counts
as the empty text, and any other value as its JSON form.
-/

namespace Stencil.Template

open Json

/-- What a helper does with its parameters: a value, which may be missing, or a fault; and the custom
types afterwards. -/
abbrev Action := List Json → CustomTypes → Except Fault (Option Json) × CustomTypes

/-- A helper that only looks at its parameters. -/
def computing (f : List Json → Except Fault Json) : Action := fun params types =>
  ((f params).map some, types)

/-- A helper that also looks at the custom types. -/
def consulting (f : List Json → CustomTypes → Except Fault Json) : Action := fun params types =>
  ((f params types).map some, types)

/-- A parameter by its position. -/
def param (helper : String) (params : List Json) (index : Nat) : Except Fault Json :=
  match params[index]? with
  | some v => .ok v
  | none => .error (.missingParam helper index)

/-- A value where a text is wanted. -/
def textOf : Json → String
  | .text s => s
  | .null => ""
  | v => v.compact

/-- A parameter where a text is wanted. -/
def textParam (helper : String) (params : List Json) (index : Nat) : Except Fault String :=
  (param helper params index).map textOf

/-- A parameter where a length is wanted: a natural number, or a text that says one. -/
def lengthParam (helper : String) (params : List Json) (index : Nat) : Except Fault Nat :=
  match param helper params index with
  | .error fault => .error fault
  | .ok v =>
    let said := v.text?.bind fun s =>
      position? (String.ofList (Text.trim Text.isBlank s.toList))
    match v.natural? <|> said with
    | some n => .ok n
    | none => .error (.unfitParam helper index "non-negative integer")

/-- A parameter where a value of a type is wanted. -/
def typedParam {α : Type} (reader : Json.Reader α) (wanted helper : String) (params : List Json)
    (index : Nat) : Except Fault α :=
  match param helper params index with
  | .error fault => .error fault
  | .ok v =>
    match decodeValue reader v with
    | .ok x => .ok x
    | .error fault => .error (.illTyped helper wanted fault)

/-- A parameter that is a property. -/
def propertyParam : String → List Json → Nat → Except Fault Property :=
  typedParam Property.read "property"

/-- A parameter of a helper whose parameters have names. -/
def namedParam (helper : String) (params : List Json) (index : Nat) (name : String) :
    Except Fault Json :=
  match params[index]? with
  | some v => .ok v
  | none => .error (.missingNamedParam helper name)

/-! ## Kinds of helpers -/

/-- A helper from a text to a text. -/
def onText (name : String) (f : String → String) : String × Action :=
  (name, computing fun params => (textParam name params 0).map fun s => .text (f s))

/-- A helper from two texts to a text. -/
def onTexts (name : String) (f : String → String → String) : String × Action :=
  (name, computing fun params => do
    let first ← textParam name params 0
    let second ← textParam name params 1
    return .text (f first second))

/-- A question about a property. -/
def onProperty (name : String) (f : Property → Json) : String × Action :=
  (name, computing fun params => (propertyParam name params 0).map f)

/-- Whether the first parameter equals one of the others. -/
def equalsAny (helper : String) (params : List Json) : Except Fault Bool := do
  let first ← param helper params 0
  let _ ← param helper params 1
  return (params.drop 1).any (same · first)

/-- The item or member of the first parameter that the second one names. -/
def lookUp : Action := fun params types =>
  let found := do
    let collection ← param "lookup" params 0
    let key ← param "lookup" params 1
    match collection with
    | .array items => return key.natural?.bind (items[·]?)
    | .object members => return key.text?.bind (Table.get? members)
    | _ => return none
  (found, types)

/-! ## Custom types -/

/-- Registers a domain. -/
def registerCustomType : Action := fun params types =>
  match textParam "registerCustomType" params 0 with
  | .ok domain => (.ok (some (.text "")), types.register domain)
  | .error fault => (.error fault, types)

/-- Sets a replacement; in a domain that is not registered, nothing happens. -/
def setCustomType : Action := fun params types =>
  let texts := do
    let domain ← textParam "setCustomType" params 0
    let token ← textParam "setCustomType" params 1
    let replacement ← textParam "setCustomType" params 2
    return (domain, token, replacement)
  match texts with
  | .ok (domain, token, replacement) =>
    (.ok (some (.text "")), (types.set domain token replacement).2)
  | .error fault => (.error fault, types)

/-- A question about a property in a domain. -/
def onCustomType (name : String) (f : CustomTypes → String → Property → Json) : String × Action :=
  (name, consulting fun params types => do
    let domain ← textParam name params 0
    let property ← propertyParam name params 1
    return f types domain property)

/-! ## Conditions -/

/-- What a helper asks of its parameters. -/
abbrev Condition := List Json → Except Fault Bool

/-- A question about two values. -/
def onValues (name : String) (f : Json → Json → Bool) : String × Condition :=
  (name, fun params => do
    let x ← param name params 0
    let y ← param name params 1
    return f x y)

/-- The helpers that answer yes or no, by their names. Their answer is a value, and on a block it
chooses between the body and the alternative. -/
def conditions : List (String × Condition) :=
  [ ("not", fun params => (param "not" params 0).map (!·.truthy false)),
    ("and", fun params => .ok (params.all (truthy false))),
    ("or", fun params => .ok (params.any (truthy false))),
    onValues "ne" fun x y => !same x y,
    onValues "gt" fun x y => compareValues x y == some .gt,
    onValues "gte" fun x y => (compareValues x y).any Ordering.isGE,
    onValues "lt" fun x y => compareValues x y == some .lt,
    onValues "lte" fun x y => (compareValues x y).any Ordering.isLE ]

/-- The answer to a condition as a value. -/
def Condition.action (condition : Condition) : Action :=
  computing fun params => (condition params).map .bool

/-! ## All of them -/

/-- The helpers that compute values, by their names. -/
def valueHelpers : List (String × Action) :=
  [ onText "lower" Text.lower,
    onText "upper" Text.upper,
    onText "pluralize" Text.pluralize,
    onText "camelcase" Text.camelcase,
    onText "titlecase" Text.titlecase,
    onText "snakecase" Text.snakecase,
    onText "SHA256" Bytes.sha256Hex,
    onText "packageToPath" Text.packagePath,
    onTexts "concat" Text.concat,
    onTexts "prefix" Text.withPrefix,
    onTexts "suffix" Text.withSuffix,
    ("truncate", computing fun params => do
      let length ← lengthParam "truncate" params 0
      let s ← textParam "truncate" params 1
      return .text (Text.truncate length s)),
    ("eq", computing fun params => (equalsAny "eq" params).map .bool),
    ("neq", computing fun params => (equalsAny "neq" params).map (.bool <| !·)),
    ("hasListType", computing fun params =>
      (typedParam Model.read "model" "hasListType" params 0).map (.bool ·.hasListType)),
    ("idProp", computing fun params =>
      (typedParam (readList Property.read) "property list" "idProp" params 0).map
        (.text <| idProperty ·)),
    onProperty "isSqliteType" (.bool ·.isSqliteType),
    onProperty "isJavaType" (.bool ·.isJavaType),
    onProperty "toSqliteType" (.text ·.sqliteType),
    onProperty "toJavaType" (.text ·.javaType),
    onProperty "toRailsType" (.text ·.railsType),
    onText "toCoreDataType" coreDataType,
    onText "toObjectiveCType" objectiveCType,
    ("registerCustomType", registerCustomType),
    ("setCustomType", setCustomType),
    onCustomType "isCustomType" fun types domain p => .bool (types.isCustomType domain p),
    onCustomType "toCustomType" fun types domain p => .text (types.customType domain p),
    ("lookup", lookUp),
    ("len", computing fun params => (namedParam "len" params 0 "x").map (.number <| .int ·.size)) ] ++
    conditions.map fun (name, condition) => (name, condition.action)

/-- A helper that executes the body of its block. -/
inductive BlockHelper where
  /-- Executes the body if its parameter counts as true, or the other way round. -/
  | choose (positive : Bool)
  /-- Executes the body for every item or member. -/
  | each
  /-- Executes the body at its parameter. -/
  | enter
  /-- Executes the body. -/
  | verbatim
  /-- Prints nothing. -/
  | silent
deriving Repr, DecidableEq

/-- The helpers that execute bodies, by their names. -/
def blockHelpers : List (String × BlockHelper) :=
  [("if", .choose true), ("unless", .choose false), ("each", .each), ("with", .enter),
    ("raw", .verbatim), ("log", .silent)]

/-- The name by which a helper asks for its first parameter, if it needs one. -/
def BlockHelper.asks : BlockHelper → Option String
  | choose _ => some "if"
  | each => some "each"
  | enter => some "with"
  | verbatim => none
  | silent => none

/-- Whether a helper has the name. -/
def isHelper (name : String) : Bool :=
  (valueHelpers.lookup name).isSome || (blockHelpers.lookup name).isSome

end Stencil.Template
