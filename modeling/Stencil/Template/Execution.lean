import Stencil.Template.Helper
import Stencil.Template.Tree
/-!
# Executing templates

A template is executed on data and yields a text. Expressions are evaluated where they stand, blocks
put frames on the stack for their bodies, and inclusions execute another template in place, on a frame
of its own and with its lines indented as the tag is.

Indentation is written together with texts, never for its own sake: in front of a text that begins a
line, unless the text is a line end itself, and after every line end inside of it.

How deep blocks, inclusions and nested calls may go is bounded; beyond the bound the execution ends
with a fault, as it does where templates include one another without end.
-/

namespace Stencil.Template

open Json

/-- What execution changes: the stack, the custom types, and the text so far. -/
structure Machine where
  frames : List Frame := [{}]
  types : CustomTypes := Table.empty
  /-- The template being executed; nothing inside of a block. -/
  current : Option String := none
  /-- What is written in front of lines. -/
  indent : List Char := []
  /-- The next text begins with the indentation. -/
  indentNext : Bool := false
  /-- Something was written since the mark was taken away. -/
  produced : Bool := false
  /-- The last text ended with a line. -/
  lineEnded : Bool := false
  /-- The text so far, its last character first. -/
  written : List Char := []

/-- A computation that may end with a fault; the changes up to there stay. -/
abbrev Exec := ExceptT Fault (StateM Machine)

/-- What templates are executed on. -/
structure Env where
  /-- The templates that can be included. -/
  templates : Table (List Element)
  data : Json

/-! ## Writing -/

/-- Puts the indentation after every line end, but not at the end of the text. -/
def indentLines (indent : List Char) : List Char → List Char
  | '\n' :: c :: cs => '\n' :: indent ++ indentLines indent (c :: cs)
  | c :: cs => c :: indentLines indent cs
  | [] => []

/-- Appends a text. -/
def Machine.write (m : Machine) (cs : List Char) : Machine :=
  if cs.isEmpty then m
  else
    let lead := if m.indentNext && !cs.head?.any isLineEnd then m.indent else []
    let ends := cs.getLast?.any isLineEnd
    { m with
      written := (lead ++ indentLines m.indent cs).reverse ++ m.written
      indentNext := ends, lineEnded := ends, produced := true }

/-- Writes a text. -/
def write (cs : List Char) : Exec Unit := modify (·.write cs)

/-- Runs a part whose first line is indented if `starts` says so; if the part writes nothing, the next
one begins as if it had not been there. -/
def withIndent (starts : Machine → Bool) (part : Exec Unit) : Exec Unit := do
  let before ← get
  set { before with indentNext := starts before, produced := false }
  part
  modify fun m =>
    if m.produced then { m with indentNext := m.lineEnded }
    else { m with indentNext := before.indentNext, produced := before.produced }

/-- Runs a part with another stack. -/
def withFrames (frames : List Frame) (part : Exec Unit) : Exec Unit := do
  let before ← get
  set { before with frames }
  part
  modify fun m => { m with frames := before.frames }

/-! ## Parameters -/

/-- The values of a call's parameters. -/
structure Args where
  params : List Located
  named : Table Located

/-- The values by position. -/
def Args.values (args : Args) : List Json := args.params.map Located.get

/-- Does what a helper does with its parameters. -/
def act (action : Action) (args : Args) : Exec (Option Json) := do
  let m ← get
  match action args.values m.types with
  | (.ok v, types) => set { m with types }; return v
  | (.error fault, types) => set { m with types }; throw fault

/-- The first parameter of a helper that needs one. -/
def firstParam (helper : BlockHelper) (args : Args) : Exec Located :=
  match helper.asks, args.params.head? with
  | some name, none => throw (.missingParam name 0)
  | _, some v => pure v
  | none, none => pure ⟨none, none⟩

/-! ## Frames of blocks -/

/-- The frame of a block that goes into a value. -/
def Located.frame (l : Located) : Frame :=
  match l.place with
  | some place => { place }
  | none => { base := some l.get }

/-- What a name for the value of a block stands for. -/
def Located.binding (l : Located) : Binding :=
  match l.place with
  | some _ => .here
  | none => .value l.get

/-- A part of a value. -/
def Located.part (l : Located) (name : String) (v : Json) : Located :=
  ⟨some v, l.place.map (· ++ [name])⟩

/-- The names that a loop gives to what it goes over. -/
def loopNames (names : List String) (part : Located) (key : Json) : List (String × Binding) :=
  match names with
  | [value] => [(value, part.binding)]
  | [value, keyName] => [(keyName, .value key), (value, part.binding)]
  | _ => []

/-- The frame of one round of a loop over `n` parts, with more variables for the round. -/
def loopFrame (names : List String) (part : Located) (key : Json) (i n : Nat)
    (more : List (String × Json)) : Frame :=
  { part.frame with
    names := loopNames names part key
    locals :=
      ("first", .bool (i == 0)) :: ("last", .bool (i + 1 == n)) ::
        ("index", .number (.int i)) :: more }

/-- The frames of the rounds over a value: the items of an array, or the members of an object. -/
def loopFrames (names : List String) (l : Located) : List Frame :=
  match l.get with
  | .array items =>
    items.zipIdx.map fun (v, i) =>
      loopFrame names (l.part (toString i) v) (.number (.int i)) i items.length []
  | .object members =>
    members.zipIdx.map fun ((name, v), i) =>
      loopFrame names (l.part name v) (.text name) i members.length [("key", .text name)]
  | _ => []

/-! ## Frames of inclusions -/

/-- The members of a value: those of an object, the items of an array or the characters of a text by
their positions, and none of any other value. -/
def membersOf : Json → Table Json
  | .object members => members
  | .array items => Table.ofList (items.zipIdx.map fun (v, i) => (toString i, v))
  | .text s =>
    Table.ofList (s.toList.zipIdx.map fun (c, i) => (toString i, .text (String.singleton c)))
  | _ => Table.empty

/-- Members put into those of a value. -/
def mergeMembers (v : Json) (named : Table Json) : Json :=
  .object (named.foldl (fun members (name, x) => Table.insert members name x) (membersOf v))

/-- The frame on which a template is executed that is included with the parameters. It stands at the
first parameter, or where the inclusion stands; parameters with names become members of the value there
and keep their names in all that the template executes. -/
def inclusionFrame (data : Json) (frames : List Frame) (args : Args) : Except Fault Frame :=
  let standing := frames.head?.getD {}
  let frame := (args.params.head?.map Located.frame).getD standing
  if args.named.isEmpty then .ok frame
  else
    let entered : Except Fault Located :=
      match args.params.head? with
      | some l => .ok l
      | none => resolve data [standing] []
    let named := args.named.map Located.get
    entered.map fun l =>
      { frame with
        base := some (mergeMembers l.get named)
        names := named.map .value }

/-! ## Elements -/

/-- How deep execution may go. -/
def maxDepth : Nat := 4000

mutual

/-- The value of an expression. -/
def evaluate (env : Env) : Nat → Expr → Exec Located
  | 0, _ => throw .endlessInclusion
  | _ + 1, .word _ => return ⟨none, none⟩
  | _ + 1, .literal v => return .computed v
  | _ + 1, .reference _ target => do
    match target.value env.data (← get).frames with
    | .ok l => return l
    | .error fault => throw fault
  | depth + 1, .call name params named => do
    let name ← nameOf env depth name
    let args ← evaluateAll env depth params named
    match valueHelpers.lookup name, blockHelpers.lookup name with
    | some action, _ => return ⟨← act action args, none⟩
    | none, some helper => do
      let _ ← firstParam helper args
      return .computed (.text "")
    | none, none => throw (.unknownHelper name)

/-- The name that an expression says. -/
def nameOf (env : Env) : Nat → Expr → Exec String
  | 0, _ => throw .endlessInclusion
  | _ + 1, .word name => return name
  | _ + 1, .reference spelling _ => return spelling
  | depth + 1, e => do
    let l ← evaluate env depth e
    return String.ofList l.get.printed

/-- The values of parameters. -/
def evaluateAll (env : Env) : Nat → List Expr → List (String × Expr) → Exec Args
  | 0, _, _ => throw .endlessInclusion
  | depth + 1, params, named => do
    let params ← params.mapM fun e => evaluate env depth e
    let named ← named.mapM fun (name, e) => do return (name, ← evaluate env depth e)
    return ⟨params, Table.ofList named⟩

end

/-- The body of a block, the names of its parameters and its alternative. -/
structure Body where
  elements : List Element
  names : List String
  otherwise : Option (List Element)

mutual

/-- Executes elements. -/
def executeAll (env : Env) : Nat → List Element → Exec Unit
  | 0, _ => throw .endlessInclusion
  | depth + 1, elements => elements.forM fun e => execute env depth e

/-- Executes an element. -/
def execute (env : Env) : Nat → Element → Exec Unit
  | 0, _ => throw .endlessInclusion
  | _ + 1, .text cs => write cs
  | _ + 1, .comment => return
  | depth + 1, .value call opensLine => do
    if call.isBare then
      let name ← nameOf env depth call.name
      if isHelper name then
        callHelper env depth call opensLine none
      else
        let l ← evaluate env depth call.name
        write l.get.printed
    else callHelper env depth call opensLine none
  | depth + 1, .block call names opensLine body otherwise =>
    callHelper env depth call opensLine (some ⟨body, names, otherwise⟩)
  | depth + 1, .decorator call => do
    let name ← nameOf env depth call.name
    let _ ← evaluateAll env depth call.params call.named
    throw (.unknownDecorator name)
  | depth + 1, .inclusion call indent opensLine => do
    let name ← nameOf env depth call.name
    let args ← evaluateAll env depth call.params call.named
    withIndent (fun m => opensLine && (m.lineEnded || !indent.isEmpty)) do
      let before ← get
      if before.current == some name then throw .selfInclusion
      if name == "@partial-block" then throw .noPartialBlock
      match env.templates.get? name, inclusionFrame env.data before.frames args with
      | none, _ => throw (.unknownPartial name)
      | some _, .error fault => throw fault
      | some elements, .ok frame => do
        let indent := before.indent ++ indent
        set { before with frames := frame :: before.frames, current := some name, indent }
        executeAll env depth elements
        modify fun m =>
          { m with frames := before.frames, current := before.current, indent := before.indent }

/-- Calls a helper, with the body of its block if it has one. -/
def callHelper (env : Env) : Nat → Call → Bool → Option Body → Exec Unit
  | 0, _, _, _ => throw .endlessInclusion
  | depth + 1, call, opensLine, body => do
    let name ← nameOf env depth call.name
    let args ← evaluateAll env depth call.params call.named
    withIndent (fun m => m.indentNext || (opensLine && m.lineEnded)) do
      match conditions.lookup name, body with
      | some condition, some body =>
        match condition args.values with
        | .ok answer => runBody env depth body answer
        | .error fault => throw fault
      | _, _ =>
        match valueHelpers.lookup name, blockHelpers.lookup name with
        | some action, _ => do
          match ← act action args with
          | some v => write v.printed
          | none => return
        | none, some helper => runBlock env depth helper args body
        | none, none => throw (.unknownHelper name)

/-- Executes the body of a block, or its alternative if it has one. -/
def runBody (env : Env) : Nat → Body → Bool → Exec Unit
  | 0, _, _ => throw .endlessInclusion
  | depth + 1, body, positive => do
    let elements := if positive then some body.elements else body.otherwise
    match elements with
    | some elements => do
      modify fun m => { m with current := none }
      executeAll env depth elements
    | none => return

/-- Does what a helper does with the body of its block. -/
def runBlock (env : Env) : Nat → BlockHelper → Args → Option Body → Exec Unit
  | 0, _, _, _ => throw .endlessInclusion
  | depth + 1, helper, args, body? => do
    let l ← firstParam helper args
    match body? with
    | none => return
    | some body =>
      let frames := (← get).frames
      match helper with
      | .choose positive =>
        let includeZero := ((args.named.get? "includeZero").map Located.get).any fun
          | .bool b => b
          | _ => false
        runBody env depth body (l.get.truthy includeZero == positive)
      | .each =>
        let rounds := loopFrames body.names l
        if rounds.isEmpty then runBody env depth body false
        else rounds.forM fun f => withFrames (f :: frames) (runBody env depth body true)
      | .enter =>
        if l.get.truthy false then
          let names := match body.names with
            | [name] => [(name, l.binding)]
            | _ => []
          withFrames ({ l.frame with names } :: frames) (runBody env depth body true)
        else runBody env depth body false
      | .verbatim => runBody env depth body true
      | .silent => return

end

/-- The text of a template on data, and the custom types afterwards. -/
def Env.run (env : Env) (name : String) (elements : List Element) (types : CustomTypes) :
    Except Fault String × CustomTypes :=
  match (executeAll env maxDepth elements).run { types, current := some name } with
  | (.ok (), m) => (.ok (String.ofList m.written.reverse), m.types)
  | (.error fault, m) => (.error fault, m.types)

end Stencil.Template
