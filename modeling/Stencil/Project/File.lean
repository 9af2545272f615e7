import Stencil.Failure
import Stencil.Files.Tree
import Stencil.Toml.Document
/-!
# Project files

A project file gives defaults for everything that a command can be told, and the mappings, which can
be given nowhere else:

```toml
project = "Shop"
templates = "templates/java"
features = ["persistence"]

[[mapping]]
templates = ["Model.java.lt"]
models = ["Order", "LineItem"]
```

No setting may occur twice, and none that is unknown. The paths in a file are seen from the directory
that the file lies in.
-/

namespace Stencil

/-- A mapping by names. -/
structure MappingNames where
  templates : List String := []
  models : List String := []
deriving Repr, DecidableEq

/-- What a project file says. -/
structure ProjectFile where
  project : Option String := none
  package : Option String := none
  language : Option String := none
  schema : Option String := none
  templates : Option String := none
  output : Option String := none
  features : List String := []
  mappings : List MappingNames := []
deriving Repr, DecidableEq

/-- The text of a value. -/
def Toml.Value.text? : Toml.Value → Option String
  | .text s => some s
  | _ => none

/-- The items of a value. -/
def Toml.Value.items? : Toml.Value → Option (List Toml.Value)
  | .array items => some items
  | _ => none

/-- The texts in a value. -/
def Toml.Value.texts? (value : Toml.Value) : Option (List String) :=
  value.items?.bind fun items => items.mapM Toml.Value.text?

namespace MappingNames

/-- The mapping with one more setting. -/
def set? (m : MappingNames) : Toml.Name × Toml.Value → Option MappingNames
  | (["templates"], value) => value.texts?.map fun names => { m with templates := names }
  | (["models"], value) => value.texts?.map fun names => { m with models := names }
  | _ => none

/-- The mapping that settings describe. -/
def ofSettings? (settings : Toml.Settings) : Option MappingNames :=
  if settings.agree then settings.foldlM set? {} else none

/-- The mapping that a value describes: a table of its settings, or an array of their values in order,
of which only the first two count. -/
def ofValue? : Toml.Value → Option MappingNames
  | .table settings => ofSettings? settings
  | .array (templates :: models :: _) => ofSettings? [(["templates"], templates), (["models"], models)]
  | .array [templates] => ofSettings? [(["templates"], templates)]
  | .array [] => some {}
  | .text _ => none
  | .scalar _ => none

end MappingNames

namespace ProjectFile

/-- The name of the setting that holds the mappings. -/
def mappingSetting : Toml.Name := ["mapping"]

/-- The file with one more setting. -/
def set? (file : ProjectFile) : Toml.Name × Toml.Value → Option ProjectFile
  | (["project"], value) => value.text?.map fun s => { file with project := some s }
  | (["package"], value) => value.text?.map fun s => { file with package := some s }
  | (["language"], value) => value.text?.map fun s => { file with language := some s }
  | (["schema"], value) => value.text?.map fun s => { file with schema := some s }
  | (["templates"], value) => value.text?.map fun s => { file with templates := some s }
  | (["output"], value) => value.text?.map fun s => { file with output := some s }
  | (["features"], value) => value.texts?.map fun names => { file with features := names }
  | (["mapping"], value) =>
    (value.items?.bind fun items => items.mapM MappingNames.ofValue?).map fun mappings =>
      { file with mappings }
  | _ => none

/-- The settings of a document, in which sections under one heading are one setting. -/
def settings? (doc : Toml.Document) : Option Toml.Settings :=
  if doc.sections.isEmpty then some doc.settings
  else if doc.sections.all (·.heading == mappingSetting) then
    some (doc.settings ++ [(mappingSetting, .array (doc.sections.map fun s => .table s.settings))])
  else none

/-- The project file that a document is. -/
def ofDocument? (doc : Toml.Document) : Option ProjectFile :=
  match settings? doc with
  | none => none
  | some settings => if settings.agree then settings.foldlM set? {} else none

/-- The project file that a text is; the path is for the failure. -/
def parse (path text : String) : Except Failure ProjectFile :=
  match (Toml.Document.parse? text).bind ofDocument? with
  | some file => .ok file
  | none => .error (.config path)

/-- The file with its paths as seen from where its directory is seen. -/
def anchor (directory : String) (file : ProjectFile) : ProjectFile :=
  { file with
    schema := file.schema.map (Path.join directory)
    templates := file.templates.map (Path.join directory)
    output := file.output.map (Path.join directory) }

/-- The project file that a path leads to. -/
def load (tree : FileTree) (current : Place) (path : String) : Except Failure ProjectFile :=
  match (tree.read? current path).bind Bytes.toText? with
  | none => .error (.inaccessible path)
  | some text => (parse path text).map (anchor ((Path.parent? path).getD ""))

end ProjectFile

end Stencil
