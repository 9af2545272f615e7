import Stencil.Json.Typing
/-!
# What stops a template

The causes for which the execution of a template ends without a text, and their wording.
-/

namespace Stencil.Template

/-- Why a template cannot be executed. -/
inductive Fault where
  /-- A helper is called with too few parameters. -/
  | missingParam (helper : String) (index : Nat)
  /-- A helper is called without a parameter that has a name. -/
  | missingNamedParam (helper param : String)
  /-- A parameter of a helper is not what it has to be. -/
  | unfitParam (helper : String) (index : Nat) (wanted : String)
  /-- A parameter of a helper has not the type that is read from it. -/
  | illTyped (helper wanted : String) (fault : Json.Fault)
  | unknownHelper (name : String)
  | unknownPartial (name : String)
  | unknownDecorator (name : String)
  /-- The block of an inclusion is asked for where there is none. -/
  | noPartialBlock
  /-- A template includes itself. -/
  | selfInclusion
  /-- An item of an array is asked for by something else than its position. -/
  | namedItem (name : String)
  /-- Templates include one another without end. -/
  | endlessInclusion
deriving Repr, DecidableEq

/-- The cause in words. -/
def Fault.message : Fault → String
  | missingParam helper index =>
    s!"Helper/Decorator {helper} param at index {index} required but not found"
  | missingNamedParam helper param =>
    s!"Helper/Decorator {helper} param with name {param} required but not found"
  | unfitParam helper index wanted =>
    s!"Helper/Decorator {helper} param with name {index} type mismatch for {wanted}"
  | illTyped helper wanted fault => s!"`{helper}` expects a {wanted}: {fault.message}"
  | unknownHelper name => s!"Helper not found {name}"
  | unknownPartial name => s!"Partial not found {name}"
  | unknownDecorator name => s!"Decorator not found {name}"
  | noPartialBlock => "Partial block cound not be found"
  | selfInclusion => "Can not include current template in partial"
  | namedItem name => s!"Cannot access array/vector with string index, {name}"
  | endlessInclusion => "templates include one another without end"

end Stencil.Template
