import Stencil.Command.Help
import Stencil.Generator.Process
import Stencil.Output.Writer
import Stencil.Project.File
import Stencil.Renderer.Template
/-!
# Generating by command

A command reads a project file, if it is told one, and goes by its options before the file: it loads
the schema, registers the template directory and runs the mappings. A project without mappings has one,
of all templates and all models. What comes out is listed in a dry run, and written otherwise.

`Outcome` is what a command leaves behind besides the files.
-/

namespace Stencil.Command

/-- What the options and the project file say together. -/
structure Settings where
  config : Config
  schema : Option String
  templates : Option String
  output : Option String
  mappings : List MappingNames
deriving Repr, DecidableEq

/-- The configuration with some names in the place of its own. -/
def configure (project package language : Option String) (features : List String) : Config :=
  let named : Config :=
    { projectName := project.getD defaultProject, packageName := package.getD Text.defaultPackage,
      language }
  features.foldl (·.setFeature · true) named

/-- The options, and what the project file says where there is none. Features are those of both. -/
def Options.settings (o : Options) (file : ProjectFile) : Settings where
  config := configure (o.project <|> file.project) (o.package <|> file.package)
    (o.language <|> file.language) (file.features ++ o.features)
  schema := o.schema <|> file.schema
  templates := o.templates <|> file.templates
  output := o.output <|> file.output
  mappings := file.mappings

/-! ## The files of a project -/

/-- The list without the repetitions of its items. -/
def firstOccurrences : List String → List String
  | [] => []
  | s :: rest => s :: (firstOccurrences rest).filter (· != s)

/-- The mapping of all templates and all models. -/
def mappingOfAll (r : Registry) (s : Schema) : MappingNames :=
  ⟨firstOccurrences (r.sources.map Source.fileName), s.models.map Model.name⟩

/-- The generator of the command. -/
abbrev State := Generator TemplateRenderer

/-- What an operation on the generator leads to. -/
def perform {α : Type} (operation : Generator.Operation TemplateRenderer α) (g : State) :
    Except Failure State :=
  match operation g with
  | (.ok _, g) => .ok g
  | (.error e, _) => .error (.generation e)

/-- Adds a mapping. -/
def addMapping (g : State) (m : MappingNames) : Except Failure State :=
  perform (Generator.addMapping m.templates m.models) g

/-- The generator with everything that the settings tell it. -/
def prepare (tree : FileTree) (current : Place) (s : Settings) : Except Failure State := do
  let g := Generator.start s.config {}
  let g ← match s.schema with
    | some path => perform (Generator.loadSchemaFile tree current path) g
    | none => .ok g
  let g ← match s.templates with
    | some path => perform (Generator.addTemplateDirectory tree current path) g
    | none => .error (.missing .templates)
  if s.mappings.isEmpty then addMapping g (mappingOfAll g.registry g.schema)
  else s.mappings.foldlM addMapping g

/-- The generated files. -/
def generate (tree : FileTree) (current : Place) (s : Settings) :
    Except Failure (List OutputFile) := do
  let g ← prepare tree current s
  match g.process with
  | (.ok files, _) => .ok files
  | (.error e, _) => .error (.generation e)

/-! ## What a command prints -/

/-- The paths of files, one on a line. -/
def plan (files : List OutputFile) : String := String.join (files.map (·.path ++ "\n"))

/-- What is said when files are written. -/
def summary (written : List String) (root : String) : String :=
  s!"Generated {written.length} files in {root}\n"

/-- Writes files below the output root, and what is said about it. -/
def deliver (tree : FileTree) (current : Place) (output : Option String) (files : List OutputFile) :
    Except Failure String × FileTree :=
  match output with
  | none => (.error (.missing .output), tree)
  | some root =>
    let (outcome, tree) := writeFiles current root tree files
    (outcome.map (summary · root), tree)

/-- The project file that the options name; an empty one if they name none. -/
def Options.projectFile (o : Options) (tree : FileTree) (current : Place) :
    Except Failure ProjectFile :=
  match o.config with
  | some path => ProjectFile.load tree current path
  | none => .ok {}

/-- Generates by options: what is printed, and the files afterwards. -/
def run (tree : FileTree) (current : Place) (o : Options) : Except Failure String × FileTree :=
  let generated : Except Failure (Settings × List OutputFile) := do
    let settings := o.settings (← o.projectFile tree current)
    return (settings, ← generate tree current settings)
  match generated with
  | .error failure => (.error failure, tree)
  | .ok (settings, files) =>
    if o.dryRun then (.ok (plan files), tree) else deliver tree current settings.output files

/-! ## Commands -/

/-- What a command leaves behind besides the files. -/
inductive Outcome where
  | printed (text : String)
  | failed (failure : Failure)
  | misused (fault : UsageFault)
deriving Repr, DecidableEq

/-- The exit code. -/
def Outcome.exitCode : Outcome → UInt8
  | printed _ => 0
  | failed _ => 1
  | misused _ => 2

/-- Executes a command with arguments: its outcome, and the files afterwards. -/
def execute (tree : FileTree) (current : Place) (arguments : List String) : Outcome × FileTree :=
  match Task.ofArguments arguments with
  | .error fault => (.misused fault, tree)
  | .ok .help => (.printed helpText, tree)
  | .ok .version => (.printed versionText, tree)
  | .ok (.generate o) =>
    match run tree current o with
    | (.ok text, tree) => (.printed text, tree)
    | (.error failure, tree) => (.failed failure, tree)

end Stencil.Command
