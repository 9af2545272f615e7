import Stencil.Renderer.Basic
/-!
# Renderers that start afresh

What a renderer is told in a run is told to the renderer that earlier runs have left. `Worn` collects all
that may be left of a renderer by runs over some sources, also by runs that were cut short anywhere.
`Alike` says that two renderers answer a coming run in the same way.

A renderer starts afresh if a reset is enough to make a worn renderer answer like a new one. It need not
be the same as a new one: what is left may be of a kind that parsing all sources once more writes over.
-/

namespace Stencil.Renderer

variable {ρ : Type} [Renderer ρ]

/-- What a renderer may have become by runs over the sources and by renderings outside of runs. -/
inductive Worn (sources : List Source) (r : ρ) : ρ → Prop
  | new : Worn sources r r
  | reset {r' : ρ} : Worn sources r r' → Worn sources r (Renderer.reset r')
  | parse {r' : ρ} {s : Source} : Worn sources r r' → s ∈ sources →
      Worn sources r (Renderer.parse s r').2
  | render {r' : ρ} (s : Source) (c : Context) : Worn sources r r' →
      Worn sources r (Renderer.render s c r').2

/-- The texts of sources in their contexts, one after another. -/
def texts (r : ρ) : List (Source × Context) → List (Except Error String)
  | [] => []
  | (s, c) :: rest => (render s c r).1 :: texts (render s c r).2 rest

/-- Parsing the sources one after another goes the same way, and so does any rendering after it if all
sources parse. -/
def Alike : List Source → ρ → ρ → Prop
  | [], r, r' => ∀ jobs, texts r jobs = texts r' jobs
  | s :: rest, r, r' => (parse s r).1 = (parse s r').1 ∧
      ((parse s r).1 = .ok () → Alike rest (parse s r).2 (parse s r').2)

/-- However worn the renderer gets by runs over some sources, once it is reset it answers the next run
over them as it would have done when it was new. -/
def StartsAfresh (r : ρ) : Prop :=
  ∀ sources r', Worn sources r r' → Alike sources (reset r') (reset r)

/-! ## Wear -/

theorem Worn.mono {sources more : List Source} {r r' : ρ} (h : Worn sources r r')
    (hsub : sources ⊆ more) : Worn more r r' := by
  induction h with
  | new => exact .new
  | reset _ ih => exact .reset ih
  | parse _ hs ih => exact .parse ih (hsub hs)
  | render s c _ ih => exact .render s c ih

theorem Worn.trans {sources : List Source} {r r' r'' : ρ} (h : Worn sources r r')
    (h' : Worn sources r' r'') : Worn sources r r'' := by
  induction h' with
  | new => exact h
  | reset _ ih => exact .reset ih
  | parse _ hs ih => exact .parse ih hs
  | render s c _ ih => exact .render s c ih

/-! ## Likeness -/

namespace Alike

variable {sources : List Source} {r r' r'' : ρ}

theorem refl (sources : List Source) (r : ρ) : Alike sources r r := by
  induction sources generalizing r with
  | nil => exact fun _ => rfl
  | cons s rest ih => exact ⟨rfl, fun _ => ih _⟩

theorem symm (h : Alike sources r r') : Alike sources r' r := by
  induction sources generalizing r r' with
  | nil => exact fun jobs => (h jobs).symm
  | cons s rest ih => exact ⟨h.1.symm, fun hok => ih (h.2 (h.1.trans hok))⟩

theorem trans (h : Alike sources r r') (h' : Alike sources r' r'') : Alike sources r r'' := by
  induction sources generalizing r r' r'' with
  | nil => exact fun jobs => (h jobs).trans (h' jobs)
  | cons s rest ih =>
    exact ⟨h.1.trans h'.1, fun hok => ih (h.2 hok) (h'.2 (h.1.symm.trans hok))⟩

/-- Renderers that are alike render alike, and stay alike. -/
theorem render (h : Alike [] r r') (s : Source) (c : Context) :
    (Renderer.render s c r).1 = (Renderer.render s c r').1 ∧
      Alike [] (Renderer.render s c r).2 (Renderer.render s c r').2 := by
  refine ⟨List.head_eq_of_cons_eq (h [(s, c)]), fun jobs => ?_⟩
  exact List.tail_eq_of_cons_eq (h ((s, c) :: jobs))

end Alike

/-! ## Renderers inside of others -/

/-- The renderers of one kind as renderers of another kind, which only hands on what it is told. -/
structure Carries {σ : Type} [Renderer σ] (f : ρ → σ) : Prop where
  reset (r : ρ) : reset (f r) = f (Renderer.reset r)
  parse (s : Source) (r : ρ) : parse s (f r) = ((Renderer.parse s r).1, f (Renderer.parse s r).2)
  render (s : Source) (c : Context) (r : ρ) :
    render s c (f r) = ((Renderer.render s c r).1, f (Renderer.render s c r).2)

theorem carries_inl {σ : Type} [Renderer σ] : Carries (Sum.inl : ρ → ρ ⊕ σ) :=
  ⟨fun _ => rfl, fun _ _ => rfl, fun _ _ _ => rfl⟩

theorem carries_inr {σ : Type} [Renderer σ] : Carries (Sum.inr : ρ → σ ⊕ ρ) :=
  ⟨fun _ => rfl, fun _ _ => rfl, fun _ _ _ => rfl⟩

namespace Carries

variable {σ : Type} [Renderer σ] {f : ρ → σ}

theorem worn (hf : Carries f) {sources : List Source} {r : ρ} {x : σ} (h : Worn sources (f r) x) :
    ∃ r', x = f r' ∧ Worn sources r r' := by
  induction h with
  | new => exact ⟨r, rfl, .new⟩
  | reset _ ih =>
    obtain ⟨r', rfl, hw⟩ := ih
    exact ⟨_, hf.reset r', hw.reset⟩
  | parse _ hs ih =>
    obtain ⟨r', rfl, hw⟩ := ih
    exact ⟨_, congrArg Prod.snd (hf.parse _ r'), hw.parse hs⟩
  | render s c _ ih =>
    obtain ⟨r', rfl, hw⟩ := ih
    exact ⟨_, congrArg Prod.snd (hf.render s c r'), hw.render s c⟩

theorem texts (hf : Carries f) (r : ρ) (jobs : List (Source × Context)) :
    Renderer.texts (f r) jobs = Renderer.texts r jobs := by
  induction jobs generalizing r with
  | nil => rfl
  | cons job rest ih => simp only [Renderer.texts, hf.render, ih]

theorem alike (hf : Carries f) {sources : List Source} {r r' : ρ} (h : Alike sources r r') :
    Alike sources (f r) (f r') := by
  induction sources generalizing r r' with
  | nil => exact fun jobs => by rw [hf.texts, hf.texts, h jobs]
  | cons s rest ih =>
    simp only [Alike, hf.parse]
    exact ⟨h.1, fun hok => ih (h.2 hok)⟩

/-- A renderer that starts afresh does so inside of another. -/
theorem startsAfresh (hf : Carries f) {r : ρ} (h : StartsAfresh r) : StartsAfresh (f r) := by
  intro sources x hx
  obtain ⟨r', rfl, hw⟩ := hf.worn hx
  rw [hf.reset, hf.reset]
  exact hf.alike (h sources r' hw)

end Carries

end Stencil.Renderer
