import Stencil.Bytes.Base64
import Stencil.Bytes.Utf8
import Stencil.Template.Fault
/-!
# Why a generation fails

Every failure is a cause; the wording is in `Error.message` and nowhere else. A cause that lies
outside of this library, such as a file that cannot be read, is worded without its details.
-/

namespace Stencil

/-- What is looked up, or must be unique. -/
inductive Entity where
  | model
  | property
  | template
deriving Repr, DecidableEq

/-- The entity in words. -/
def Entity.describe : Entity → String
  | model => "model"
  | property => "property"
  | template => "template"

/-- A rule that is broken by a call or a document. -/
inductive Violation where
  | modelWithoutName
  | propertyWithoutRemote (model type : String)
  | propertyWithoutIdentifier (model : String)
  | propertyWithoutType (model property : String)
  | newModelWithoutName
  | templateWithoutName
  | templateWithoutVersion (fileName : String)
  | notAFile (path : String)
  | mappingWithoutTemplate
  | nothingToProcess
  | noRenderer (id : Nat)
deriving Repr, DecidableEq

/-- The rule in words. -/
def Violation.message : Violation → String
  | modelWithoutName => "at least one model is missing its Name"
  | propertyWithoutRemote model type =>
    s!"model '{model}' has a property of type '{type}' missing its RemoteIdentifier"
  | propertyWithoutIdentifier model => s!"properties of model '{model}' must have an identifier"
  | propertyWithoutType model property =>
    s!"property '{property}' of model '{model}' must have a type"
  | newModelWithoutName => "models must have a name"
  | templateWithoutName => "templates must have a file name"
  | templateWithoutVersion fileName => s!"template '{fileName}' must have a version"
  | notAFile path => s!"`{path}` does not name a file"
  | mappingWithoutTemplate => "mappings must reference at least one template"
  | nothingToProcess => "no mappings to process"
  | noRenderer id => s!"no renderer registered for id {id}"

/-- Why a renderer refuses a template. -/
inductive ParseFault where
  /-- The template is of another version of the format. -/
  | version (wanted found : String)
  | notUtf8 (fault : Bytes.Utf8Fault)
  /-- The text is not a template. -/
  | malformed
deriving Repr, DecidableEq

/-- Why a renderer yields no text. -/
inductive RenderFault where
  | notParsed
  | noRenderer (id : Nat)
  | stopped (fault : Template.Fault)
deriving Repr, DecidableEq

/-- The cause in words. -/
def RenderFault.message : RenderFault → String
  | notParsed => "template has not been parsed"
  | noRenderer id => s!"no renderer registered for id {id}"
  | stopped fault => fault.message

/-- Why a call on the state of a generation, or the generation itself, fails. -/
inductive Error where
  | notFound (entity : Entity) (name : String)
  | duplicate (entity : Entity) (name : String)
  | invalid (violation : Violation)
  | parse (template : String) (fault : ParseFault)
  | schema (fault : Json.Fault)
  | render (template : String) (fault : RenderFault)
  | unreadable (path : String)
  | undecodable (fault : Bytes.Base64.Fault)
  | unwalkable
deriving Repr, DecidableEq

/-- The failure in words. -/
def Error.message : Error → String
  | notFound entity name => s!"{entity.describe} not found: {name}"
  | duplicate entity name => s!"attempted to add duplicate {entity.describe} with name '{name}'"
  | invalid violation => s!"validation failed: {violation.message}"
  | parse template (.version wanted found) =>
    s!"failed to parse template '{template}': expected template version {wanted}, found {found}"
  | parse template (.notUtf8 fault) =>
    s!"failed to parse template '{template}': template is not valid UTF-8: {fault.message}"
  | parse template .malformed => s!"failed to parse template '{template}'"
  | schema _ => "failed to parse schema document"
  | render template fault => s!"failed to render template '{template}': {fault.message}"
  | unreadable path => s!"failed to read `{path}`"
  | undecodable fault => s!"failed to decode passthrough body: {fault.message}"
  | unwalkable => "failed to walk template directory"

end Stencil
