import Stencil.Schema.Basic
import Stencil.Text.Scan
import Stencil.Text.Words
/-!
# Type dictionaries

Each target ecosystem has a fixed table from type tokens to the names of its own types. Tokens are
looked up in any letter case. A token that is not in the table is handed back as it is, or as nothing
where the ecosystem has no names of its own for models' types.
-/

namespace Stencil

/-- A target ecosystem. -/
inductive TypeDictionary where
  | sqlite
  | java
  | coreData
  | objectiveC
  | rails
deriving Repr, DecidableEq

namespace TypeDictionary

/-- All dictionaries. -/
def all : List TypeDictionary := [sqlite, java, coreData, objectiveC, rails]

/-- The name by which a dictionary is known. -/
def name : TypeDictionary → String
  | sqlite => "sqlite"
  | java => "java"
  | coreData => "core-data"
  | objectiveC => "objective-c"
  | rails => "rails"

/-- The dictionary of a name, in any ASCII letter case. -/
def ofName? (s : String) : Option TypeDictionary :=
  all.find? fun d => d.name.toList == s.toList.map Char.toLower

/-- The tokens and the names of types. -/
def entries : TypeDictionary → List (String × String)
  | sqlite =>
    [("int", "INTEGER"), ("integer", "INTEGER"), ("short", "INTEGER"), ("long", "INTEGER"),
      ("float", "REAL"), ("boolean", "INTEGER"), ("char", "TEXT"), ("character", "TEXT"),
      ("string", "TEXT"), ("byte", "TEXT"), ("void", "NONE")]
  | java =>
    [("int", "int"), ("integer", "int"), ("short", "short"), ("long", "long"), ("float", "float"),
      ("boolean", "boolean"), ("char", "char"), ("character", "char"), ("string", "String"),
      ("byte", "byte"), ("void", "NONE")]
  | coreData =>
    [("int", "Integer 32"), ("integer", "Integer 32"), ("short", "Integer 16"),
      ("long", "Integer 64"), ("float", "Float"), ("boolean", "Boolean"), ("char", "String"),
      ("character", "String"), ("string", "String"), ("date", "Date"), ("byte", "NONE"),
      ("void", "NONE")]
  | objectiveC =>
    [("int", "NSNumber"), ("integer", "NSNumber"), ("short", "NSNumber"), ("long", "NSNumber"),
      ("float", "NSNumber"), ("boolean", "NSNumber"), ("char", "NSString"),
      ("character", "NSString"), ("string", "NSString"), ("date", "NSDate"), ("byte", "NONE"),
      ("void", "NONE")]
  | rails =>
    [("int", "integer"), ("integer", "integer"), ("short", "integer"), ("long", "integer"),
      ("float", "float"), ("boolean", "boolean"), ("char", "string"), ("character", "string"),
      ("string", "string"), ("byte", "NONE"), ("void", "NONE")]

/-- The name of the type of a token, if the dictionary has one. -/
def lookup? (d : TypeDictionary) (token : String) : Option String :=
  d.entries.lookup (Text.lower token)

/-- The name of the type of a token, or the token itself. -/
def translate (d : TypeDictionary) (token : String) : String := (d.lookup? token).getD token

end TypeDictionary

namespace Property

/-- Whether the property is a column of its own; a collection never is. -/
def isSqliteType (p : Property) : Bool :=
  !p.isSet && (TypeDictionary.sqlite.lookup? p.typeToken).isSome

/-- The type of the property's column. -/
def sqliteType (p : Property) : String := TypeDictionary.sqlite.translate p.typeToken

/-- Whether the element type of the property is a Java type. -/
def isJavaType (p : Property) : Bool := (TypeDictionary.java.lookup? p.typeToken).isSome

/-- The Java type of the property; a collection is a list. -/
def javaType (p : Property) : String :=
  let element := TypeDictionary.java.translate p.typeToken
  if p.isSet then s!"List<{element}>" else element

/-- The Rails type of the property; a collection is an array. -/
def railsType (p : Property) : String :=
  if p.isSet then "Array" else TypeDictionary.rails.translate p.typeToken

end Property

/-- The Core Data type of a token, or nothing. -/
def coreDataType (token : String) : String := (TypeDictionary.coreData.lookup? token).getD ""

/-- The Objective-C type of a token, or nothing. -/
def objectiveCType (token : String) : String := (TypeDictionary.objectiveC.lookup? token).getD ""

/-- Whether a property of the model is a collection. -/
def Model.hasListType (m : Model) : Bool := m.properties.any (·.isSet)

/-- The identifying property as a constant in upper case: the first whose remote identifier contains
`id`, or else the first. -/
def idProperty (properties : List Property) : String :=
  let named := properties.find? fun p => Text.contains "id".toList p.remoteName.toList
  match named <|> properties.head? with
  | some p => Text.upper (Text.snakecase p.remoteName)
  | none => "UNKNOWN_PROPERTY"

end Stencil
