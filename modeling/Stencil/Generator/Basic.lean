import Stencil.Generator.Mapping
import Stencil.Renderer.Basic
import Stencil.Schema.Document
/-!
# The state of a generation

A generator holds everything that one generation needs: the configuration, the schema, the registry of
sources, the mappings, and the renderers, the first of which is the default one.

An operation gives a result or an error, and the generator afterwards.
-/

namespace Stencil

/-- The project of a configuration that names none. -/
def defaultProject : String := "ExampleProject"

/-- What every template is told, and the target language. -/
structure Config where
  projectName : String := defaultProject
  packageName : String := Text.defaultPackage
  language : Option String := none
  /-- The feature flags by their names in lower case. -/
  features : Table Bool := Table.empty
deriving Repr, DecidableEq

/-- The configuration with a feature turned on or off. -/
def Config.setFeature (c : Config) (name : String) (on : Bool) : Config :=
  { c with features := c.features.insert (Text.lower name) on }

/-- The state of a generation. -/
structure Generator (ρ : Type) where
  config : Config
  schema : Schema := {}
  registry : Registry := {}
  mappings : List Mapping := []
  renderers : List ρ

namespace Generator

variable {ρ : Type}

/-- An operation on a generator. -/
abbrev Operation (ρ α : Type) := Generator ρ → Except Error α × Generator ρ

/-- A generator with a default renderer. -/
def start (config : Config) (renderer : ρ) : Generator ρ := { config, renderers := [renderer] }

/-- Adds a renderer, and its position. -/
def registerRenderer (renderer : ρ) (g : Generator ρ) : Nat × Generator ρ :=
  (g.renderers.length, { g with renderers := g.renderers ++ [renderer] })

/-- The renderer at a position. -/
def renderer? (g : Generator ρ) (id : Nat) : Option ρ := g.renderers[id]?

/-- Turns a feature on. -/
def addFeature (name : String) (g : Generator ρ) : Generator ρ :=
  { g with config := g.config.setFeature name true }

/-- Turns a feature off. -/
def removeFeature (name : String) (g : Generator ρ) : Generator ρ :=
  { g with config := g.config.setFeature name false }

/-! ## Models -/

/-- Changes the schema. -/
def changeSchema (change : Schema → Except Error Schema) : Operation ρ Unit := fun g =>
  match change g.schema with
  | .ok schema => (.ok (), { g with schema })
  | .error e => (.error e, g)

/-- Adds a model. -/
def addModel (m : Model) : Operation ρ Unit := changeSchema (·.addModel m)

/-- Adds a model without properties. -/
def addModelNamed (name : String) : Operation ρ Unit :=
  if name.isEmpty then fun g => (.error (.invalid .newModelWithoutName), g)
  else addModel { name }

/-- Adds a property to a model. -/
def addProperty (model remote localName type : String) : Operation ρ Unit :=
  changeSchema (·.addProperty model remote localName type)

/-- Adds models one after another, up to the first that is refused. -/
def addModels : List Model → Operation ρ Unit
  | [] => fun g => (.ok (), g)
  | m :: ms => fun g =>
    match addModel m g with
    | (.ok (), g) => addModels ms g
    | (.error e, g) => (.error e, g)

/-- The first of the models whose name the schema has already, or a model before it. -/
def clash? (s : Schema) (seen : List String) : List Model → Option String
  | [] => none
  | m :: ms =>
    if (s.position? m.name).isSome || seen.contains m.name then some m.name
    else clash? s (m.name :: seen) ms

/-- Takes over the project's name of a schema that has one. -/
def takeProject (incoming : Schema) (g : Generator ρ) : Generator ρ :=
  if incoming.project.isEmpty then g
  else { g with schema := { g.schema with project := incoming.project } }

/-- Adds all models of a schema, none of whose names may be taken. -/
def loadSchema (incoming : Schema) : Operation ρ Unit := fun g =>
  match incoming.validate with
  | .error e => (.error e, g)
  | .ok () =>
    match clash? g.schema [] incoming.models with
    | some name => (.error (.duplicate .model name), g)
    | none => addModels incoming.models (g.takeProject incoming)

/-- Loads the schema of a document. -/
def loadDocument (document : String) : Operation ρ Unit := fun g =>
  match Schema.load document with
  | .error e => (.error e, g)
  | .ok incoming => g.loadSchema incoming

/-- The schema of the document that a path leads to. -/
def readSchema (tree : FileTree) (current : Place) (path : String) : Except Error Schema :=
  match (tree.read? current path).bind Bytes.toText? with
  | none => .error (.unreadable path)
  | some document => Schema.load document

/-- Loads the schema of a file. -/
def loadSchemaFile (tree : FileTree) (current : Place) (path : String) : Operation ρ Unit := fun g =>
  match readSchema tree current path with
  | .error e => (.error e, g)
  | .ok incoming => g.loadSchema incoming

/-! ## Sources -/

/-- Changes the registry. -/
def changeRegistry (change : Registry → Except Error Registry) : Operation ρ Unit := fun g =>
  match change g.registry with
  | .ok registry => (.ok (), { g with registry })
  | .error e => (.error e, g)

/-- Registers a file that is bound to a renderer. -/
def addTemplateWith (fileName : String) (contents : Bytes) (version directory : String)
    (renderer : Nat) : Operation ρ Unit := fun g =>
  if renderer < g.renderers.length then
    changeRegistry (·.add fileName contents version directory renderer) g
  else (.error (.invalid (.noRenderer renderer)), g)

/-- Registers a file. -/
def addTemplate (fileName : String) (contents : Bytes) (version directory : String) :
    Operation ρ Unit :=
  addTemplateWith fileName contents version directory 0

/-- Registers the file that a path leads to. -/
def addTemplateFile (tree : FileTree) (current : Place) (path : String) : Operation ρ Unit :=
  changeRegistry (·.addFile tree current path 0)

/-- Registers every file of a template set. -/
def addTemplateDirectory (tree : FileTree) (current : Place) (path : String) : Operation ρ Unit :=
  changeRegistry (·.addDirectory tree current path 0)

/-! ## Mappings -/

/-- Adds a mapping of sources and models by their names. -/
def addMapping (sourceNames modelNames : List String) : Operation ρ Mapping := fun g =>
  match Mapping.resolve g.registry g.schema sourceNames modelNames with
  | .ok mapping => (.ok mapping, { g with mappings := g.mappings ++ [mapping] })
  | .error e => (.error e, g)

end Generator

end Stencil
