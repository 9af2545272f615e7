import Stencil.Command.Options
import Stencil.Text.Case
/-!
# Help about the command

The options are listed in two columns: how an option is spelled, and what it is for.
-/

namespace Stencil.Command

/-- What the parameter is for. -/
def Parameter.purpose : Parameter → String
  | config => "Project file (levo.toml) with defaults for every other option"
  | schema => "Schema document (JSON)"
  | templates => "Template directory"
  | output => "Directory generated files are written to"
  | project => "Project name passed to templates"
  | package => "Package name passed to templates"
  | language => "Target language"
  | feature => "Enable a template feature flag (repeatable)"

/-- What stands for the value. -/
def Parameter.placeholder : Parameter → String
  | feature => "<NAME>"
  | p => "<" ++ Text.upper p.name ++ ">"

/-- What the flag is for. -/
def Flag.purpose : Flag → String
  | dryRun => "Print the files that would be generated without writing them"
  | verbose => "Increase verbosity (-v, -vv, -vvv)"
  | help => "Print help"
  | version => "Print version"

/-- Where the second column begins. -/
def purposeColumn : Nat := 31

/-- A line about an option. -/
def optionLine (letter? : Option Char) (spelling purpose : String) : String :=
  let letter := match letter? with
    | some letter => "  -" ++ String.singleton letter ++ ", --"
    | none => "      --"
  let spelled := letter ++ spelling
  spelled ++ String.ofList (List.replicate (purposeColumn - spelled.length) ' ') ++ purpose ++ "\n"

/-- A line about a parameter. -/
def Parameter.line (p : Parameter) : String :=
  optionLine p.letter? (p.name ++ " " ++ p.placeholder) p.purpose

/-- A line about a flag. A flag that may be repeated has dots behind it. -/
def Flag.line (f : Flag) : String :=
  optionLine f.letter? (f.name ++ if f = .verbose then "..." else "") f.purpose

/-- How mappings are given, and some commands. -/
def mappingsHelp : String :=
  "\nMAPPINGS:\n" ++
  "  Mappings bind template file names to model names and come from [[mapping]]\n" ++
  "  tables in the config file. Without any, every template is rendered once\n" ++
  "  against every model in the schema.\n\n" ++
  "  Examples:\n" ++
  "    levo -s schema.json -t templates -o out\n" ++
  "    levo -c levo.toml --feature persistence\n" ++
  "    levo -c levo.toml --dry-run\n"

/-- The help. -/
def helpText : String :=
  "Generate source files from a model schema and a directory of templates\n\n" ++
  "Usage: levo [OPTIONS]\n\nOptions:\n" ++
  String.join (Parameter.all.map Parameter.line ++ Flag.all.map Flag.line) ++ mappingsHelp

/-- The name of the command and its version. -/
def versionText : String := "levo 0.1.0\n"

end Stencil.Command
