/-!
# Options of the command

The arguments of a command are options only: flags, and parameters with a value. An option has a long
name after two hyphens and perhaps a letter after one. Letters may stand together. The value of a
parameter is what follows `=`, or the rest of the argument after a letter, or else the next argument,
which must not look like an option itself.

Arguments count from left to right: a request for help stops the reading, so what is wrong behind it
does not matter.
-/

namespace Stencil.Command

/-- An option with a value. -/
inductive Parameter where
  | config
  | schema
  | templates
  | output
  | project
  | package
  | language
  | feature
deriving Repr, DecidableEq

namespace Parameter

/-- The parameters in the order of the help. -/
def all : List Parameter :=
  [config, schema, templates, output, project, package, language, feature]

/-- The long name. -/
def name : Parameter → String
  | config => "config"
  | schema => "schema"
  | templates => "templates"
  | output => "output"
  | project => "project"
  | package => "package"
  | language => "language"
  | feature => "feature"

/-- The letter. -/
def letter? : Parameter → Option Char
  | config => some 'c'
  | schema => some 's'
  | templates => some 't'
  | output => some 'o'
  | project => some 'p'
  | package => none
  | language => none
  | feature => some 'f'

/-- Whether the value is a path, which is never empty. -/
def isPath : Parameter → Bool
  | config => true
  | schema => true
  | templates => true
  | output => true
  | _ => false

end Parameter

/-- An option without a value. -/
inductive Flag where
  | dryRun
  | verbose
  | help
  | version
deriving Repr, DecidableEq

namespace Flag

/-- The flags in the order of the help. -/
def all : List Flag := [dryRun, verbose, help, version]

/-- The long name. -/
def name : Flag → String
  | dryRun => "dry-run"
  | verbose => "verbose"
  | help => "help"
  | version => "version"

/-- The letter. -/
def letter? : Flag → Option Char
  | dryRun => none
  | verbose => some 'v'
  | help => some 'h'
  | version => some 'V'

end Flag

/-- An option that is given. -/
inductive Item where
  | parameter (p : Parameter) (value : String)
  | flag (f : Flag)
deriving Repr, DecidableEq

/-- What is wrong with arguments. -/
inductive UsageFault where
  /-- An option that there is not, or no option at all. -/
  | unknown (argument : String)
  | withoutValue (p : Parameter)
  | withValue (f : Flag)
  | repeated (name : String)
deriving Repr, DecidableEq

/-- The fault in words. -/
def UsageFault.message : UsageFault → String
  | unknown argument => s!"unexpected argument '{argument}' found"
  | withoutValue p => s!"a value is required for '--{p.name}' but none was supplied"
  | withValue f => s!"unexpected value for '--{f.name}' found; no more were expected"
  | repeated name => s!"the argument '--{name}' cannot be used multiple times"

/-! ## Arguments -/

/-- How an argument ends. -/
inductive Ending where
  | complete
  /-- The next argument is the value. -/
  | wants (p : Parameter)
  | fault (f : UsageFault)
deriving Repr, DecidableEq

/-- The options of letters that stand together. -/
def readLetters (argument : String) : List Char → List Item × Ending
  | [] => ([], .complete)
  | c :: cs =>
    match Parameter.all.find? (·.letter? == some c) with
    | some p =>
      match cs with
      | [] => ([], .wants p)
      | '=' :: value => ([.parameter p (String.ofList value)], .complete)
      | value => ([.parameter p (String.ofList value)], .complete)
    | none =>
      match Flag.all.find? (·.letter? == some c) with
      | some f => let (items, ending) := readLetters argument cs; (.flag f :: items, ending)
      | none => ([], .fault (.unknown argument))

/-- The option with a long name, and its value after `=` if there is one. -/
def readNamed (argument name : String) (value? : Option String) : List Item × Ending :=
  match Parameter.all.find? (·.name == name), value? with
  | some p, some value => ([.parameter p value], .complete)
  | some p, none => ([], .wants p)
  | none, _ =>
    match Flag.all.find? (·.name == name), value? with
    | some f, none => ([.flag f], .complete)
    | some f, some _ => ([], .fault (.withValue f))
    | none, _ => ([], .fault (.unknown argument))

/-- The options in an argument. -/
def readArgument (argument : String) : List Item × Ending :=
  match argument.toList with
  | '-' :: '-' :: cs =>
    let value? := match cs.dropWhile (· != '=') with
      | _ :: value => some (String.ofList value)
      | [] => none
    readNamed argument (String.ofList (cs.takeWhile (· != '='))) value?
  | '-' :: c :: cs => readLetters argument (c :: cs)
  | _ => ([], .fault (.unknown argument))

/-- Whether the argument looks like an option, so that it is no value. -/
def isOption (argument : String) : Bool :=
  match argument.toList with
  | '-' :: _ :: _ => true
  | _ => false

/-- The argument after which there are no options any more. -/
def optionsEnd : String := "--"

/-- The options in arguments, up to the first fault. -/
def readItems : List String → List Item × Option UsageFault
  | [] => ([], none)
  | argument :: rest =>
    if argument == optionsEnd then ([], rest.head?.map .unknown)
    else match readArgument argument with
      | (items, .complete) => let (more, fault?) := readItems rest; (items ++ more, fault?)
      | (items, .fault fault) => (items, some fault)
      | (items, .wants p) =>
        match rest with
        | [] => (items, some (.withoutValue p))
        | value :: rest =>
          if isOption value then (items, some (.withoutValue p))
          else let (more, fault?) := readItems rest; (items ++ .parameter p value :: more, fault?)

/-! ## What the options say -/

/-- What a command is told. -/
structure Options where
  config : Option String := none
  schema : Option String := none
  templates : Option String := none
  output : Option String := none
  project : Option String := none
  package : Option String := none
  language : Option String := none
  features : List String := []
  dryRun : Bool := false
  verbosity : Nat := 0
deriving Repr, DecidableEq

namespace Options

/-- The value that the options give to a parameter which is given once at most. -/
def value? (o : Options) : Parameter → Option String
  | .config => o.config
  | .schema => o.schema
  | .templates => o.templates
  | .output => o.output
  | .project => o.project
  | .package => o.package
  | .language => o.language
  | .feature => none

/-- The options with a value of a parameter. -/
def give (o : Options) (value : String) : Parameter → Options
  | .config => { o with config := some value }
  | .schema => { o with schema := some value }
  | .templates => { o with templates := some value }
  | .output => { o with output := some value }
  | .project => { o with project := some value }
  | .package => { o with package := some value }
  | .language => { o with language := some value }
  | .feature => { o with features := o.features ++ [value] }

/-- The options with one more parameter. -/
def add (o : Options) (p : Parameter) (value : String) : Except UsageFault Options :=
  if p.isPath && value.isEmpty then .error (.withoutValue p)
  else if (o.value? p).isSome then .error (.repeated p.name)
  else .ok (o.give value p)

end Options

/-- What a command is asked for. -/
inductive Task where
  | help
  | version
  | generate (options : Options)
deriving Repr, DecidableEq

namespace Task

/-- The task of items after those that say `o`, and of the fault behind them. -/
def ofItems (fault? : Option UsageFault) (o : Options) : List Item → Except UsageFault Task
  | [] =>
    match fault? with
    | some fault => .error fault
    | none => .ok (.generate o)
  | .flag .help :: _ => .ok .help
  | .flag .version :: _ => .ok .version
  | .flag .verbose :: rest => ofItems fault? { o with verbosity := o.verbosity + 1 } rest
  | .flag .dryRun :: rest =>
    if o.dryRun then .error (.repeated Flag.dryRun.name)
    else ofItems fault? { o with dryRun := true } rest
  | .parameter p value :: rest =>
    match o.add p value with
    | .error fault => .error fault
    | .ok o => ofItems fault? o rest

/-- The task that arguments ask for. -/
def ofArguments (arguments : List String) : Except UsageFault Task :=
  let (items, fault?) := readItems arguments
  ofItems fault? {} items

end Task

end Stencil.Command
