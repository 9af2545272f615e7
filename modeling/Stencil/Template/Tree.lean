import Stencil.Template.Layout
/-!
# Templates as trees

A template whose blocks are all opened and closed is a tree: blocks hold the elements between their
tags, and perhaps an alternative. An alternative that begins with a call is a block of its own, which
ends where the block around it ends.
-/

namespace Stencil.Template

/-- An element of a template. -/
inductive Element where
  | text (cs : List Char)
  /-- Prints the value of a call. `opensLine` says whether what it writes begins a line. -/
  | value (call : Call) (opensLine : Bool)
  | block (call : Call) (names : List String) (opensLine : Bool) (body : List Element)
    (otherwise : Option (List Element))
  /-- Executes another template, with `indent` at the beginning of its lines. -/
  | inclusion (call : Call) (indent : List Char) (opensLine : Bool)
  | decorator (call : Call)
  | comment
deriving Repr, Inhabited

/-- The name that the tag which opens a block gives it. -/
def Call.blockName (call : Call) : String :=
  match call.name with
  | .word name => name
  | .reference spelling _ => spelling
  | _ => ""

mutual

/-- The elements up to the end of a block or of the template, and the items from there on. -/
def buildElements : Nat → List Item → Option (List Element × List Item)
  | 0, _ => none
  | _ + 1, [] => some ([], [])
  | fuel + 1, .text cs :: items => do
    let (elements, rest) ← buildElements fuel items
    return (.text cs :: elements, rest)
  | fuel + 1, .tag laid :: items =>
    match laid.placed.tag with
    | .alternative _ => some ([], .tag laid :: items)
    | .closing _ => some ([], .tag laid :: items)
    | .rawClosing _ => some ([], .tag laid :: items)
    | .opening call names => do
      let (body, otherwise, rest) ← buildBlock fuel call.blockName items
      let (elements, rest) ← buildElements fuel rest
      return (.block call names laid.opensLine body otherwise :: elements, rest)
    | .rawOpening call names => do
      let (body, rest) ← buildElements fuel items
      match rest with
      | .tag ⟨⟨.rawClosing name, _, _, _, _⟩, _⟩ :: rest =>
        if name == call.blockName then
          let (elements, rest) ← buildElements fuel rest
          return (.block call names laid.opensLine body none :: elements, rest)
        else none
      | _ => none
    | .value call => do
      let (elements, rest) ← buildElements fuel items
      return (.value call laid.opensLine :: elements, rest)
    | .inclusion call => do
      let (elements, rest) ← buildElements fuel items
      let indent := if laid.placed.trimsBefore then [] else laid.placed.indent
      return (.inclusion call indent laid.opensLine :: elements, rest)
    | .decorator call => do
      let (elements, rest) ← buildElements fuel items
      return (.decorator call :: elements, rest)
    | .comment => do
      let (elements, rest) ← buildElements fuel items
      return (.comment :: elements, rest)

/-- The body and the alternative of a block that is closed by `name`, and the items after it. -/
def buildBlock : Nat → String → List Item →
    Option (List Element × Option (List Element) × List Item)
  | 0, _, _ => none
  | fuel + 1, name, items => do
    let (body, rest) ← buildElements fuel items
    match rest with
    | .tag ⟨⟨.closing closed, _, _, _, _⟩, _⟩ :: rest =>
      if closed == name then return (body, none, rest) else none
    | .tag ⟨⟨.alternative none, _, _, _, _⟩, _⟩ :: rest => do
      let (otherwise, rest) ← buildElements fuel rest
      match rest with
      | .tag ⟨⟨.closing closed, _, _, _, _⟩, _⟩ :: rest =>
        if closed == name then return (body, some otherwise, rest) else none
      | _ => none
    | .tag ⟨⟨.alternative (some (call, names)), _, _, _, _⟩, opensLine⟩ :: rest => do
      let (inner, otherwise, rest) ← buildBlock fuel name rest
      return (body, some [.block call names opensLine inner otherwise], rest)
    | _ => none

end

/-- The elements of a template, if it is well formed. -/
def compile? (source : String) : Option (List Element) := do
  let tokens ← tokens? source.toList
  let items := layOut {} [] tokens
  match buildElements (2 * items.length + 2) items with
  | some (elements, []) => some elements
  | _ => none

end Stencil.Template
