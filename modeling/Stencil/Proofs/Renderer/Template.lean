import Stencil.Proofs.Renderer.Afresh
import Stencil.Proofs.Table
import Stencil.Renderer.Echo
import Stencil.Renderer.Template
/-!
# The template renderer starts afresh

A reset clears the custom types and leaves the compiled templates. What is left of these does no harm:
rendering does not touch them, and parsing learns the same entries again. `settle_learn` is the reason: a
source that is parsed with all the others makes no difference when it has been parsed before, as the last
source of its key decides what is compiled under the key.
-/

namespace Stencil.TemplateRenderer

/-! ## Learning -/

/-- What parsing a source makes known under its key. -/
def learned? (s : Source) : Option (List Template.Element) :=
  if s.version = formatVersion then
    match s.body with
    | .template text => Template.compile? text
    | .opaqueFile _ => none
  else none

/-- The renderer after it has parsed a source. -/
def learn (s : Source) (t : TemplateRenderer) : TemplateRenderer :=
  match learned? s with
  | some elements => { t with compiled := t.compiled.insert s.key elements }
  | none => t

/-- Whether a source parses does not depend on the renderer's state. -/
theorem parse_eq (s : Source) (t t' : TemplateRenderer) :
    (Renderer.parse s t).1 = (Renderer.parse s t').1 ∧ (Renderer.parse s t).2 = learn s t := by
  simp only [Renderer.parse, parse, learn, learned?]
  by_cases hv : s.version = formatVersion
  · cases s.body with
    | opaqueFile armored => simp [hv]
    | template text => cases hc : Template.compile? text <;> simp [hv, hc]
  · simp [hv]

theorem learned?_eq_some {s : Source} {elements : List Template.Element} (h : learned? s = some elements) :
    ∃ text, s.body = .template text ∧ Template.compile? text = some elements := by
  unfold learned? at h
  split at h
  · split at h
    · next text hb => exact ⟨text, hb, h⟩
    · cases h
  · cases h

theorem learn_self (s : Source) (t : TemplateRenderer) : learn s (learn s t) = learn s t := by
  unfold learn
  cases learned? s with
  | none => rfl
  | some elements => simp only [Table.insert_insert_self]

/-- A source takes the place of an earlier one with its key, or the two can be exchanged. -/
theorem learn_learn (s s' : Source) (t : TemplateRenderer) :
    learn s' (learn s t) = learn s' t ∨ learn s' (learn s t) = learn s (learn s' t) := by
  unfold learn
  cases learned? s with
  | none => exact .inl rfl
  | some elements =>
    cases learned? s' with
    | none => exact .inr rfl
    | some elements' =>
      by_cases hk : s.key = s'.key
      · exact .inl (by simp only [hk, Table.insert_insert_self])
      · exact .inr (by simp only [Table.insert_comm _ hk])

theorem reset_learn (s : Source) (t : TemplateRenderer) :
    Renderer.reset (learn s t) = learn s (Renderer.reset t) := by
  unfold learn
  cases learned? s <;> rfl

/-- Rendering leaves the compiled templates alone. -/
theorem reset_render (s : Source) (c : Context) (t : TemplateRenderer) :
    Renderer.reset (Renderer.render s c t).2 = Renderer.reset t := by
  simp only [Renderer.render, render]
  cases t.compiled.get? s.key with
  | none => rfl
  | some elements =>
    simp only
    split <;> rfl

/-! ## What is compiled under a key -/

theorem get?_learn_self {s : Source} {elements : List Template.Element} (h : learned? s = some elements)
    (t : TemplateRenderer) : (learn s t).compiled.get? s.key = some elements := by
  simp only [learn, h]
  exact Table.get?_insert_self _ _ _

theorem get?_learn_of_ne {s : Source} {key : String} (h : learned? s = none ∨ key ≠ s.key) (t : TemplateRenderer) :
    (learn s t).compiled.get? key = t.compiled.get? key := by
  unfold learn
  cases he : learned? s with
  | none => rfl
  | some elements =>
    rw [he] at h
    exact Table.get?_insert_of_ne _ _ (h.resolve_left nofun)

/-! ## Settling -/

/-- The renderer after it has parsed all sources. -/
def settle (sources : List Source) (t : TemplateRenderer) : TemplateRenderer :=
  sources.foldl (fun t s => learn s t) t

/-- A source that is parsed with the others need not have been parsed before. -/
theorem settle_learn {sources : List Source} {s : Source} (hs : s ∈ sources) (t : TemplateRenderer) :
    settle sources (learn s t) = settle sources t := by
  induction sources generalizing t with
  | nil => cases hs
  | cons s' rest ih =>
    simp only [settle, List.foldl_cons]
    -- `s` is parsed next, or it can wait until its turn comes, unless `s'` writes over it at once.
    rcases List.mem_cons.1 hs with rfl | hs
    · rw [learn_self]
    · rcases learn_learn s s' t with h | h
      · rw [h]
      · rw [h]
        exact ih hs (learn s' t)

theorem settle_worn {sources : List Source} {t t' : TemplateRenderer}
    (h : Renderer.Worn sources t t') :
    settle sources (Renderer.reset t') = settle sources (Renderer.reset t) := by
  induction h with
  | new => rfl
  | reset _ ih => exact ih
  | @parse t' s _ hs ih => rw [(parse_eq s t' t').2, reset_learn, settle_learn hs, ih]
  | render s c _ ih => rw [reset_render, ih]

/-- Renderers that become the same by parsing cannot be told apart. -/
theorem alike_of_settle {sources : List Source} {t t' : TemplateRenderer}
    (h : settle sources t = settle sources t') : Renderer.Alike sources t t' := by
  induction sources generalizing t t' with
  | nil =>
    obtain rfl : t = t' := h
    exact .refl [] t
  | cons s rest ih =>
    refine ⟨(parse_eq s t t').1, fun _ => ih ?_⟩
    rw [(parse_eq s t t).2, (parse_eq s t' t').2]
    exact h

/-- No use of the template renderer leaves anything behind that a later run can see. -/
theorem startsAfresh (t : TemplateRenderer) : Renderer.StartsAfresh t :=
  fun _ _ h => alike_of_settle (settle_worn h)

end Stencil.TemplateRenderer

namespace Stencil.EchoRenderer

/-- The echo renderer has nothing that could be left behind. -/
theorem startsAfresh (r : EchoRenderer) : Renderer.StartsAfresh r := by
  intro sources r' h
  have hr : r' = r := by
    induction h with
    | new => rfl
    | reset _ ih => exact ih
    | parse _ _ ih => exact ih
    | render _ _ _ ih => exact ih
  rw [hr]
  exact .refl sources _

end Stencil.EchoRenderer
