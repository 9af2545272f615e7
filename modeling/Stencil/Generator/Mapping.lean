import Stencil.Registry.Basic
import Stencil.Schema.Basic
/-!
# Mappings

A mapping binds sources to models. It holds positions, in the registry and in the schema, and no
copies: as both only grow, a position leads to the same source for ever, and to the same model as it
stands by then.
-/

namespace Stencil

/-- Positions of sources and of models. -/
structure Mapping where
  sources : List Nat
  models : List Nat
deriving Repr, DecidableEq

namespace Mapping

/-- The positions of the sources with the names, after those that are found already. Each position
occurs once, where it is found first. -/
def resolveSources (r : Registry) (found : List Nat) : List String → Except Error (List Nat)
  | [] => .ok found
  | name :: names =>
    match r.positionsOf name with
    | .error e => .error e
    | .ok positions => resolveSources r (found ++ positions.filter (!found.contains ·)) names

/-- The positions of the models with the names. -/
def resolveModels (s : Schema) : List String → Except Error (List Nat)
  | [] => .ok []
  | name :: names =>
    match s.position? name with
    | none => .error (.notFound .model name)
    | some i => (resolveModels s names).map (i :: ·)

/-- The mapping of sources and models by their names. -/
def resolve (r : Registry) (s : Schema) (sourceNames modelNames : List String) :
    Except Error Mapping :=
  match resolveSources r [] sourceNames with
  | .error e => .error e
  | .ok sources =>
    match resolveModels s modelNames with
    | .error e => .error e
    | .ok models =>
      if sources.isEmpty then .error (.invalid .mappingWithoutTemplate) else .ok ⟨sources, models⟩

/-- The mapped sources in order. -/
def sourcesIn (m : Mapping) (r : Registry) : List Source := r.select m.sources

/-- The mapped models in order, as they stand in the schema. -/
def modelsIn (m : Mapping) (s : Schema) : List Model := m.models.filterMap fun i => s.models[i]?

end Mapping

end Stencil
