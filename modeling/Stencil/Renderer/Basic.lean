import Stencil.Context
import Stencil.Output.Block
import Stencil.Registry.Source
/-!
# Renderers

A renderer makes text of sources. It is told every source before it has to render one, so that
sources can refer to each other, and it is reset before that. Parsing and rendering may change the
renderer, also when they fail.
-/

namespace Stencil

/-- The operations of a renderer. -/
class Renderer (ρ : Type) where
  /-- A short name. -/
  name : ρ → String
  /-- Forgets what an earlier run has left behind. -/
  reset : ρ → ρ
  /-- Prepares a source for rendering. -/
  parse : Source → ρ → Except Error Unit × ρ
  /-- The text of a source in a context. -/
  render : Source → Context → ρ → Except Error String × ρ

namespace Renderer

variable {ρ : Type} [Renderer ρ]

/-- The files in the text of a source; those that name no directory get that of the source. -/
def generate (source : Source) (context : Context) (r : ρ) : Except Error (List OutputFile) × ρ :=
  match render source context r with
  | (.ok text, r) => (.ok (extractFiles text source.directory), r)
  | (.error e, r) => (.error e, r)

end Renderer

/-- A renderer of one of two kinds. -/
instance {α β : Type} [Renderer α] [Renderer β] : Renderer (α ⊕ β) where
  name
    | .inl r => Renderer.name r
    | .inr r => Renderer.name r
  reset
    | .inl r => .inl (Renderer.reset r)
    | .inr r => .inr (Renderer.reset r)
  parse source
    | .inl r => let (outcome, r) := Renderer.parse source r; (outcome, .inl r)
    | .inr r => let (outcome, r) := Renderer.parse source r; (outcome, .inr r)
  render source context
    | .inl r => let (outcome, r) := Renderer.render source context r; (outcome, .inl r)
    | .inr r => let (outcome, r) := Renderer.render source context r; (outcome, .inr r)

end Stencil
