import Stencil.Proofs.Generator.InPlace
import Stencil.Renderer.Echo
/-!
# Refused steps change nothing

A step that answers with an error leaves configuration, schema, registry and mappings as they were, however far
it had come: a schema is looked at as a whole before its first model is added, the files of a directory are
gathered before the first one is registered, a mapping is resolved before it is kept. So even in place, check by check
and write by write, nothing has been written when a check fails (`settled_actions`). Only a run that fails may leave
something behind, in the renderers.
-/

namespace Stencil.Generator

variable {ρ : Type} [Renderer ρ]

/-- A step that is refused leaves configuration, schema, registry and mappings as they were, and all of the
generator unless it is a run. -/
theorem perform_refused (s : Step ρ) (g : Generator ρ) (e : Error) (h : (s.perform g).1 = .error e) :
    (s.perform g).2.config = g.config ∧ (s.perform g).2.schema = g.schema ∧
      (s.perform g).2.registry = g.registry ∧ (s.perform g).2.mappings = g.mappings ∧
      (s ≠ .process → (s.perform g).2 = g) := by
  by_cases hs : s = .process
  · rw [hs]
    exact ⟨rfl, rfl, rfl, rfl, fun hne => absurd rfl hne⟩
  · rw [← carryOut_actions hs g] at h ⊢
    rw [(settled_actions s g).unchanged h]
    exact ⟨rfl, rfl, rfl, rfl, fun _ => rfl⟩

/-- A schema is refused for its last model, and the project's name is not taken over either. -/
theorem perform_refused_last :
    let g : Generator EchoRenderer := performAll [.addModelNamed "Order"] (start {} ⟨"echo"⟩)
    let s : Step EchoRenderer := .loadSchema ⟨"Shop", [{ name := "Customer" }, { name := "Order" }]⟩
    (s.perform g).1 = .error (.duplicate .model "Order") ∧ (s.perform g).2.schema = g.schema := by
  intro g s
  have h : (s.perform g).1 = .error (.duplicate .model "Order") := by decide
  exact ⟨h, (perform_refused s g _ h).2.1⟩

end Stencil.Generator
