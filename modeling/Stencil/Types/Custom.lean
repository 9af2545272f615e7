import Stencil.Schema.Basic
import Stencil.Table
/-!
# Custom types

Templates may set up type tables of their own while they are executed. A table has a name, its
domain; a replacement can be set only in a domain that has been registered, and registering a domain
again keeps what is in it. A look-up that finds nothing is no failure: the type stays what it is.
-/

namespace Stencil

/-- The registered domains and the replacements in them. -/
abbrev CustomTypes := Table (Table String)

namespace CustomTypes

/-- Registers a domain; one that is registered already stays as it is. -/
def register (types : CustomTypes) (domain : String) : CustomTypes :=
  if types.contains domain then types else types.insert domain Table.empty

/-- Whether the domain is registered. -/
def isRegistered (types : CustomTypes) (domain : String) : Bool := types.contains domain

/-- Sets a replacement in a registered domain, and whether there was one. -/
def set (types : CustomTypes) (domain token replacement : String) : Bool × CustomTypes :=
  match types.get? domain with
  | some table => (true, types.insert domain (table.insert token replacement))
  | none => (false, types)

/-- The replacement of a token in a domain. -/
def lookup? (types : CustomTypes) (domain token : String) : Option String :=
  (types.get? domain).bind (·.get? token)

/-- Whether the domain replaces the type of the property. -/
def isCustomType (types : CustomTypes) (domain : String) (p : Property) : Bool :=
  (types.lookup? domain p.typeToken).isSome

/-- The replacement of the property's type, or the type itself. -/
def customType (types : CustomTypes) (domain : String) (p : Property) : String :=
  (types.lookup? domain p.typeToken).getD p.typeToken

/-- No domain at all. -/
def clear (_ : CustomTypes) : CustomTypes := Table.empty

end CustomTypes

end Stencil
