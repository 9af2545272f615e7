import Mathlib.Data.List.Forall2
import Stencil.Proofs.Generator.History
import Stencil.Proofs.Renderer.Template
/-!
# Runs do not leak into one another

Two generators that were given the same renderers may have any past. `Agree` lists what a run reads apart
from the renderers: the project's and the package's name, the features, the registry, and for every mapping
its sources and the models that it leads to. If the renderers start afresh, generators that agree have the
same outcome.

The two runs go in lockstep: at every position stand two renderers that answer alike from now on. They are
alike at the beginning because what a generator does to a renderer is wear (`Reached.worn`), from which a
reset recovers.
-/

namespace Stencil.Generator

variable {ρ : Type} [Renderer ρ]

/-! ## Wear -/

/-- The sources that are bound to the renderer at the position. -/
def boundTo (i : Nat) (sources : List Source) : List Source := sources.filter (·.renderer == i)

theorem boundTo_cons_self (s : Source) (rest : List Source) :
    boundTo s.renderer (s :: rest) = s :: boundTo s.renderer rest := by
  simp [boundTo]

theorem boundTo_cons_of_ne {i : Nat} {s : Source} (h : i ≠ s.renderer) (rest : List Source) :
    boundTo i (s :: rest) = boundTo i rest := by
  simp [boundTo, h.symm]

omit [Renderer ρ] in
/-- What is found after one renderer has been put in the place of another. -/
theorem of_getElem?_set {rs : List ρ} {i j : Nat} {x r : ρ} (h : (rs.set j x)[i]? = some r) :
    (i = j ∧ r = x) ∨ (i ≠ j ∧ rs[i]? = some r) := by
  by_cases hij : i = j
  · subst hij
    obtain ⟨hlt, rfl⟩ := List.getElem?_eq_some_iff.1 h
    exact .inl ⟨rfl, List.getElem_set_self hlt⟩
  · rw [List.getElem?_set_ne (Ne.symm hij)] at h
    exact .inr ⟨hij, h⟩

/-- Every renderer is worn by what it has been asked. -/
theorem Asked.worn {sources : List Source} {rs rs' : List ρ} (h : Asked sources rs rs') {i : Nat}
    {r r' : ρ} (hr : rs[i]? = some r) (hr' : rs'[i]? = some r') :
    Renderer.Worn (boundTo i sources) r r' := by
  induction h generalizing r' with
  | refl =>
    obtain rfl : r = r' := Option.some.inj (hr.symm.trans hr')
    exact .new
  | @parse rs' s x _ hs hx ih =>
    rcases of_getElem?_set hr' with ⟨rfl, rfl⟩ | ⟨-, hold⟩
    · exact .parse (ih hx) (List.mem_filter.2 ⟨hs, beq_self_eq_true _⟩)
    · exact ih hold
  | @render rs' j x s c _ hx ih =>
    rcases of_getElem?_set hr' with ⟨rfl, rfl⟩ | ⟨-, hold⟩
    · exact .render s c (ih hx)
    · exact ih hold

/-- The renderers of a generator are worn by runs over the sources that it has by then. -/
theorem Reached.worn {given : List ρ} {g : Generator ρ} (h : Reached given g) {i : Nat} {r₀ r : ρ}
    (h₀ : given[i]? = some r₀) (hr : g.renderers[i]? = some r) :
    Renderer.Worn (boundTo i g.registry.sources) r₀ r := by
  induction h generalizing r₀ r with
  | start config x =>
    obtain rfl : r₀ = r := Option.some.inj (h₀.symm.trans hr)
    exact .new
  | @step given g s hg ih =>
    have he := effect_perform s g
    generalize (s.perform g).2 = g' at hr he ⊢
    cases he with
    | registry _ registry j hnone hgrow _ =>
      rw [hnone, List.append_nil] at h₀
      obtain ⟨added, hadded, -⟩ := hgrow
      refine (ih h₀ hr).mono ?_
      rw [hadded]
      exact (List.sublist_append_left _ _).filter _ |>.subset
    | renderer x =>
      have hlen := hg.length_renderers.1
      by_cases hi : i < given.length
      · rw [List.getElem?_append_left hi] at h₀
        rw [List.getElem?_append_left (hlen ▸ hi)] at hr
        exact ih h₀ hr
      · rw [Step.given, List.getElem?_append_right (Nat.le_of_not_lt hi)] at h₀
        rw [List.getElem?_append_right (hlen ▸ Nat.le_of_not_lt hi), hlen] at hr
        obtain rfl : r₀ = r := Option.some.inj (h₀.symm.trans hr)
        exact .new
    | run =>
      change (given ++ [])[i]? = some r₀ at h₀
      rw [List.append_nil] at h₀
      -- A run without mappings does nothing; any other one resets before it asks.
      rcases asked_run g with hsame | hasked
      · exact ih h₀ (hsame ▸ hr)
      · obtain ⟨x, hx⟩ : ∃ x, g.renderers[i]? = some x := by
          have hi := (List.getElem?_eq_some_iff.1 hr).1
          exact ⟨_, List.getElem?_eq_getElem (length_run g ▸ hi)⟩
        have hreset : (g.renderers.map Renderer.reset)[i]? = some (Renderer.reset x) := by
          rw [List.getElem?_map, hx, Option.map_some]
        exact (ih h₀ hx).reset.trans (hasked.worn hreset hr)
    | config _ _ hnone | schema _ _ hnone | mappings _ _ hnone =>
      rw [hnone, List.append_nil] at h₀
      exact ih h₀ hr
  | edit _ _ ih => exact ih h₀ hr
  | @render given g j x s c _ hx ih =>
    rcases of_getElem?_set hr with ⟨rfl, rfl⟩ | ⟨-, hold⟩
    · exact .render s c (ih h₀ hx)
    · exact ih h₀ hold

/-! ## Two runs in lockstep -/

/-- At every position stand two renderers that answer alike when they have to parse the remaining sources
that are bound to them, and to render. -/
structure Lockstep (rest : List Source) (rs rs' : List ρ) : Prop where
  length_eq : rs.length = rs'.length
  alike {i : Nat} {r r' : ρ} : rs[i]? = some r → rs'[i]? = some r' →
    Renderer.Alike (boundTo i rest) r r'

namespace Lockstep

variable {rest : List Source} {rs rs' : List ρ}

/-- Where one run finds a renderer, so does the other. -/
theorem position (h : Lockstep rest rs rs') (i : Nat) : (rs[i]? = none ∧ rs'[i]? = none) ∨
    ∃ r r', rs[i]? = some r ∧ rs'[i]? = some r' ∧ Renderer.Alike (boundTo i rest) r r' := by
  by_cases hi : i < rs.length
  · have hr := List.getElem?_eq_getElem hi
    have hr' := List.getElem?_eq_getElem (h.length_eq ▸ hi)
    exact .inr ⟨_, _, hr, hr', h.alike hr hr'⟩
  · refine .inl ⟨List.getElem?_eq_none (Nat.le_of_not_lt hi), List.getElem?_eq_none ?_⟩
    rw [← h.length_eq]
    exact Nat.le_of_not_lt hi

/-- The runs stay in lockstep when the renderers at one position go on alike and the others are not
concerned. -/
theorem set {more : List Source} {j : Nat} {x x' : ρ} (h : Lockstep rest rs rs')
    (hothers : ∀ i, i ≠ j → boundTo i rest = boundTo i more)
    (hx : Renderer.Alike (boundTo j more) x x') : Lockstep more (rs.set j x) (rs'.set j x') := by
  refine ⟨by rw [List.length_set, List.length_set, h.length_eq], ?_⟩
  intro i r r' hr hr'
  rcases of_getElem?_set hr with ⟨rfl, rfl⟩ | ⟨hne, hr⟩
  · rcases of_getElem?_set hr' with ⟨-, rfl⟩ | ⟨hne, -⟩
    · exact hx
    · exact absurd rfl hne
  · rcases of_getElem?_set hr' with ⟨rfl, -⟩ | ⟨-, hr'⟩
    · exact absurd rfl hne
    · rw [← hothers i hne]
      exact h.alike hr hr'

/-- Parsing goes the same way, and leaves the runs in lockstep if all sources parse. -/
theorem parseAll_eq (h : Lockstep rest rs rs') :
    (parseAll rs rest).outcome = (parseAll rs' rest).outcome ∧
      ((parseAll rs rest).outcome = .ok () →
        Lockstep [] (parseAll rs rest).renderers (parseAll rs' rest).renderers) := by
  induction rest generalizing rs rs' with
  | nil => exact ⟨rfl, fun _ => h⟩
  | cons s rest ih =>
    unfold parseAll
    rcases h.position s.renderer with ⟨hr, hr'⟩ | ⟨r, r', hr, hr', halike⟩
    · simp only [hr, hr']
      exact ⟨trivial, fun hok => by cases hok⟩
    · rw [boundTo_cons_self] at halike
      have hothers : ∀ i, i ≠ s.renderer → boundTo i (s :: rest) = boundTo i rest :=
        fun _ hne => boundTo_cons_of_ne hne rest
      rcases hp : Renderer.parse s r with ⟨outcome, x⟩
      rcases hp' : Renderer.parse s r' with ⟨outcome', x'⟩
      have hsame : outcome = outcome' := by simpa only [hp, hp'] using halike.1
      subst hsame
      cases outcome with
      | error e =>
        simp only [hr, hr', hp, hp']
        exact ⟨trivial, fun hok => by cases hok⟩
      | ok u =>
        have hnext := h.set hothers (halike.2 (by rw [hp]))
        rw [hp, hp'] at hnext
        simpa only [hr, hr', hp, hp'] using ih hnext

/-- Rendering a source goes the same way, and leaves the runs in lockstep. -/
theorem processSource_eq (h : Lockstep [] rs rs') (s : Source) (c : Context) :
    (processSource rs s c).outcome = (processSource rs' s c).outcome ∧
      Lockstep [] (processSource rs s c).renderers (processSource rs' s c).renderers := by
  unfold processSource
  rcases h.position s.renderer with ⟨hr, hr'⟩ | ⟨r, r', hr, hr', halike⟩
  · simp only [hr, hr']
    exact ⟨trivial, h⟩
  · simp only [hr, hr']
    cases s.body with
    | opaqueFile armored => exact ⟨rfl, h⟩
    | template text =>
      obtain ⟨hsame, hnext⟩ := halike.render s c
      simp only [generate_eq, hsame]
      exact ⟨trivial, h.set (fun _ _ => rfl) hnext⟩

theorem processAll_eq (h : Lockstep [] rs rs') (jobs : List (Source × Context)) :
    (processAll rs jobs).outcome = (processAll rs' jobs).outcome := by
  induction jobs generalizing rs rs' with
  | nil => rfl
  | cons job jobs ih =>
    obtain ⟨s, c⟩ := job
    obtain ⟨hsame, hnext⟩ := h.processSource_eq s c
    unfold processAll
    cases ho : (processSource rs s c).outcome with
    | error e =>
      rw [ho] at hsame
      simp only [ho, ← hsame]
    | ok files =>
      rw [ho] at hsame
      simp only [ho, ← hsame, ih hnext]

end Lockstep

/-! ## Generators that agree -/

/-- The generators agree on all that a run reads apart from the renderers. Their schemas may be different
if the mappings lead to the same models in them. -/
structure Agree {ρ : Type} (g g' : Generator ρ) : Prop where
  projectName : g.config.projectName = g'.config.projectName
  packageName : g.config.packageName = g'.config.packageName
  features : g.config.features = g'.config.features
  registry : g.registry = g'.registry
  mappings : List.Forall₂
    (fun m m' => m.sources = m'.sources ∧ m.modelsIn g.schema = m'.modelsIn g'.schema)
    g.mappings g'.mappings

namespace Agree

variable {g g' : Generator ρ}

omit [Renderer ρ]

/-- Generators that agree render the same sources in the same contexts. -/
theorem jobs_eq (h : Agree g g') : g.jobs = g'.jobs := by
  have hone (m m' : Mapping) (hm : m.sources = m'.sources ∧ m.modelsIn g.schema = m'.modelsIn g'.schema) :
      (m.sourcesIn g.registry).map (·, g.contextOf m) =
        (m'.sourcesIn g'.registry).map (·, g'.contextOf m') := by
    simp only [Mapping.sourcesIn, contextOf, h.registry, h.projectName, h.packageName, h.features, hm.1,
      hm.2]
  have hmappings := h.mappings
  unfold jobs
  generalize g.mappings = ms, g'.mappings = ms' at hmappings ⊢
  induction hmappings with
  | nil => rfl
  | cons hm _ ih => rw [List.flatMap_cons, List.flatMap_cons, hone _ _ hm, ih]

theorem isEmpty_eq (h : Agree g g') : g.mappings.isEmpty = g'.mappings.isEmpty := by
  rw [Bool.eq_iff_iff, List.isEmpty_iff_length_eq_zero, List.isEmpty_iff_length_eq_zero,
    h.mappings.length_eq]

end Agree

/-- The outcome of a run is that of its two parts. -/
theorem process_outcome (g : Generator ρ) : (process g).1 =
    if g.mappings.isEmpty then .error (.invalid .nothingToProcess)
    else match (parseAll (g.renderers.map Renderer.reset) g.registry.sources).outcome with
      | .error e => .error e
      | .ok () => (processAll
          (parseAll (g.renderers.map Renderer.reset) g.registry.sources).renderers g.jobs).outcome := by
  simp only [process, run]
  split
  · rfl
  · split <;> simp only [*]

/-- The renderers of two generators are in lockstep once they are reset. -/
theorem Reached.lockstep {given : List ρ} {g g' : Generator ρ}
    (hgiven : ∀ r ∈ given, Renderer.StartsAfresh r) (h : Reached given g) (h' : Reached given g')
    (hregistry : g.registry = g'.registry) :
    Lockstep g.registry.sources (g.renderers.map Renderer.reset) (g'.renderers.map Renderer.reset) := by
  have hlen := h.length_renderers.1
  have hlen' := h'.length_renderers.1
  refine ⟨by simp [hlen, hlen'], ?_⟩
  intro i x x' hx hx'
  rw [List.getElem?_map, Option.map_eq_some_iff] at hx hx'
  obtain ⟨r, hr, rfl⟩ := hx
  obtain ⟨r', hr', rfl⟩ := hx'
  -- Both stand where one renderer was handed over, and each has recovered from its own wear.
  have hi : i < given.length := hlen ▸ (List.getElem?_eq_some_iff.1 hr).1
  have h₀ := List.getElem?_eq_getElem hi
  have hafresh := hgiven _ (List.getElem_mem hi)
  have hworn := hafresh _ _ (h.worn h₀ hr)
  have hworn' := hafresh _ _ (h'.worn h₀ hr')
  rw [← hregistry] at hworn'
  exact hworn.trans hworn'.symm

/-- Generators that agree have the same outcome if all renderers start afresh. -/
theorem process_eq_of_startsAfresh {given : List ρ} {g g' : Generator ρ}
    (hgiven : ∀ r ∈ given, Renderer.StartsAfresh r) (h : Reached given g) (h' : Reached given g')
    (hagree : Agree g g') : (process g).1 = (process g').1 := by
  obtain ⟨hsame, hnext⟩ := (h.lockstep hgiven h' hagree.registry).parseAll_eq
  rw [hagree.registry] at hsame hnext
  rw [process_outcome, process_outcome, hagree.isEmpty_eq, hagree.jobs_eq, hagree.registry, hsame]
  split
  · rfl
  · split
    · rfl
    · next hok => exact (hnext (hsame.trans hok)).processAll_eq g'.jobs

/-- Generators that were given template renderers and the same others have the same outcome if they agree,
whatever has happened to each of them before. Of the others it is asked that a reset drops what earlier runs
have left, so that they start afresh. -/
theorem process_eq_of_agree {given : List (TemplateRenderer ⊕ ρ)}
    {g g' : Generator (TemplateRenderer ⊕ ρ)}
    (hothers : ∀ r, .inr r ∈ given → Renderer.StartsAfresh r) (h : Reached given g)
    (h' : Reached given g') (hagree : Agree g g') : (process g).1 = (process g').1 := by
  refine process_eq_of_startsAfresh ?_ h h' hagree
  intro r hr
  cases r with
  | inl t => exact Renderer.carries_inl.startsAfresh t.startsAfresh
  | inr r => exact Renderer.carries_inr.startsAfresh (hothers r hr)

/-- Neither runs that declare custom types nor a model that no mapping has make a difference. -/
theorem process_eq_after_runs :
    let sources : List (Step (TemplateRenderer ⊕ EchoRenderer)) :=
      [.registerRenderer (.inr ⟨"echo"⟩),
        .addTemplate "a.lt" (Bytes.ofText "\x7b\x7bregisterCustomType \"swift\"\x7d\x7d") "1.0" "",
        .addTemplateWith "b.lt" [] "1.0" "" 1]
    let past := sources ++
      [.addModelNamed "Order", .addMapping ["a.lt", "b.lt"] ["Order"], .process, .process]
    let other := sources ++
      [.addModelNamed "Unused", .addModelNamed "Order", .addMapping ["a.lt", "b.lt"] ["Order"]]
    let g := performAll past (start {} (.inl {}))
    let g' := performAll other (start { language := some "swift" } (.inl {}))
    Agree g g' ∧ g.schema ≠ g'.schema ∧ (process g).1 = (process g').1 := by
  intro sources past other g g'
  have hagree : Agree g g' :=
    ⟨by decide, by decide, by decide, by decide, .cons ⟨by decide, by decide⟩ .nil⟩
  have hgiven : past.flatMap Step.given = other.flatMap Step.given := rfl
  have h : Reached ([.inl {}] ++ past.flatMap Step.given) g := (Reached.start _ _).performAll past
  have h' : Reached ([.inl {}] ++ other.flatMap Step.given) g' := (Reached.start _ _).performAll other
  rw [← hgiven] at h'
  exact ⟨hagree, by decide, process_eq_of_agree (fun r _ => r.startsAfresh) h h' hagree⟩

end Stencil.Generator
