import Stencil.Proofs.Generator.Copies
import Stencil.Proofs.Generator.Independence
/-!
# What is added later comes behind

A run goes through the mappings in order, and each sees its own models only. So models, properties of other models and
mappings that are added after a run leave its files where they are: the next run begins with them, and can only fail
behind them (`process_begins_with`).

`Spared` says what stays the same for the mappings of an earlier generator. The two runs go in lockstep over these
mappings, and what is parsed and rendered in one is parsed and rendered in the other (`Lockstep.parsed`,
`Lockstep.rendered`).
-/

namespace Stencil.Generator

variable {ρ : Type} [Renderer ρ]

/-! ## Generators that keep their models -/

/-- The generators that callers can come to. They may edit a model that they hold, but not take it away. -/
inductive Grown : List ρ → Generator ρ → Prop
  | start (config : Config) (r : ρ) : Grown [r] (start config r)
  | step {given : List ρ} {g : Generator ρ} (s : Step ρ) : Grown given g →
      Grown (given ++ s.given) (s.perform g).2
  | edit {given : List ρ} {g : Generator ρ} (i : Nat) (m : Model) : Grown given g →
      Grown given { g with schema := { g.schema with models := g.schema.models.set i m } }
  | render {given : List ρ} {g : Generator ρ} {i : Nat} {r : ρ} (s : Source) (c : Context) :
      Grown given g → g.renderers[i]? = some r →
      Grown given { g with renderers := g.renderers.set i (Renderer.render s c r).2 }

namespace Grown

variable {given : List ρ} {g : Generator ρ}

theorem reached (h : Grown given g) : Reached given g := by
  induction h with
  | start config r => exact .start config r
  | step s _ ih => exact ih.step s
  | edit i m _ ih => exact ih.edit _
  | render s c _ hr ih => exact ih.render s c hr

theorem performAll (h : Grown given g) (steps : List (Step ρ)) :
    Grown (given ++ steps.flatMap Step.given) (performAll steps g) := by
  induction steps generalizing given g with
  | nil => simpa [Generator.performAll] using h
  | cons s steps ih =>
    rw [List.flatMap_cons, ← List.append_assoc]
    exact ih (h.step s)

/-- Every position of a mapping is that of a model. -/
theorem lt_length (h : Grown given g) {m : Mapping} (hm : m ∈ g.mappings) {i : Nat} (hi : i ∈ m.models) :
    i < g.schema.models.length := by
  induction h with
  | start => cases hm
  | @step given g s _ ih =>
    have hs := does_perform s g
    generalize (s.perform g).1 = answer, (s.perform g).2 = g' at hs hm ⊢
    cases hs with
    | models => exact Nat.lt_of_lt_of_le (ih hm) (by simp)
    | property => simpa using ih hm
    | mapping hresolve =>
      rcases List.mem_append.1 hm with hm | hm
      · exact ih hm
      · -- the positions of a new mapping have just been found
        rw [List.mem_singleton.1 hm] at hi
        obtain ⟨-, -, hmodels⟩ := Mapping.resolve_eq_ok hresolve
        obtain ⟨name, -, hname⟩ := List.mem_map.1 (hmodels ▸ List.mem_map_of_mem hi)
        obtain ⟨x, hx, -⟩ := Schema.getElem?_of_position? hname
        exact (List.getElem?_eq_some_iff.1 hx).1
    | _ => exact ih hm
  | edit _ _ _ ih => simpa using ih hm
  | render _ _ _ _ ih => exact ih hm

end Grown

/-! ## What stays the same -/

/-- The step adds models or mappings, or a property to a model that no mapping of the generator has. It may also be
a run. -/
def Step.Spares (g : Generator ρ) : Step ρ → Prop
  | addModel _ | addModelNamed _ | loadSchema _ | loadDocument _ | loadSchemaFile _ _ _ => True
  | addProperty model _ _ _ => ∀ m ∈ g.mappings, ∀ x ∈ m.modelsIn g.schema, x.name ≠ model
  | addMapping _ _ | process => True
  | _ => False

/-- The mappings of an earlier generator find now what they found then. -/
structure Spared (before now : Generator ρ) : Prop where
  config : now.config = before.config
  registry : now.registry = before.registry
  mappings : before.mappings <+: now.mappings
  models : ∀ m ∈ before.mappings, ∀ i ∈ m.models, ∃ x : Model,
    before.schema.models[i]? = some x ∧ now.schema.models[i]? = some x

namespace Spared

variable {before now : Generator ρ}

omit [Renderer ρ]

theorem append_models (h : Spared before now) (project : String) (added : List Model) :
    Spared before { now with schema := ⟨project, now.schema.models ++ added⟩ } where
  config := h.config
  registry := h.registry
  mappings := h.mappings
  models m hm i hi := by
    obtain ⟨x, hx, hnow⟩ := h.models m hm i hi
    refine ⟨x, hx, ?_⟩
    rw [List.getElem?_append_left (List.getElem?_eq_some_iff.1 hnow).1]
    exact hnow

theorem set_model (h : Spared before now) {i : Nat} {x : Model} (hx : now.schema.models[i]? = some x)
    (hname : ∀ m ∈ before.mappings, ∀ y ∈ m.modelsIn before.schema, y.name ≠ x.name) (x' : Model) :
    Spared before { now with schema := { now.schema with models := now.schema.models.set i x' } } where
  config := h.config
  registry := h.registry
  mappings := h.mappings
  models m hm j hj := by
    obtain ⟨y, hy, hnow⟩ := h.models m hm j hj
    refine ⟨y, hy, ?_⟩
    have hij : i ≠ j := by
      rintro rfl
      obtain rfl : x = y := Option.some.inj (hx.symm.trans hnow)
      exact hname m hm x (List.mem_filterMap.2 ⟨i, hj, hy⟩) rfl
    rw [List.getElem?_set_ne hij]
    exact hnow

theorem append_mapping (h : Spared before now) (m : Mapping) :
    Spared before { now with mappings := now.mappings ++ [m] } where
  config := h.config
  registry := h.registry
  mappings := h.mappings.trans (List.prefix_append _ _)
  models := h.models

theorem addModel (h : Spared before now) (m : Model) : Spared before (Generator.addModel m now).2 := by
  rcases addModel_cases m now with ⟨e, heq⟩ | ⟨-, heq⟩
  · rw [heq]
    exact h
  · rw [heq]
    exact h.append_models _ _

theorem loadSchema (h : Spared before now) (incoming : Schema) :
    Spared before (Generator.loadSchema incoming now).2 := by
  rcases loadSchema_cases incoming now with ⟨e, heq⟩ | ⟨project, -, -, heq⟩
  · rw [heq]
    exact h
  · rw [heq]
    exact h.append_models _ _

end Spared

theorem Spared.perform {before now : Generator ρ} (h : Spared before now) {s : Step ρ} (hs : s.Spares before) :
    Spared before (s.perform now).2 := by
  cases s with
  | addModel m => exact h.addModel m
  | addModelNamed name =>
    simp only [Step.perform, Generator.addModelNamed]
    split
    · exact h
    · exact h.addModel _
  | addProperty model remote localName type =>
    simp only [Step.perform]
    rcases addProperty_cases model remote localName type now with ⟨e, heq⟩ | ⟨i, x, -, hx, rfl, heq⟩
    · rw [heq]
      exact h
    · rw [heq]
      exact h.set_model hx hs _
  | loadSchema incoming => exact h.loadSchema incoming
  | loadDocument document =>
    simp only [Step.perform, Generator.loadDocument]
    split
    · exact h
    · exact h.loadSchema _
  | loadSchemaFile tree current path =>
    simp only [Step.perform, Generator.loadSchemaFile]
    split
    · exact h
    · exact h.loadSchema _
  | addMapping sourceNames modelNames =>
    simp only [Step.perform, Generator.addMapping]
    split
    · exact h.append_mapping _
    · exact h
  | process => exact ⟨h.config, h.registry, h.mappings, h.models⟩
  | _ => exact hs.elim

theorem Spared.performAll {before now : Generator ρ} (h : Spared before now) {steps : List (Step ρ)}
    (hsteps : ∀ s ∈ steps, s.Spares before) : Spared before (performAll steps now) := by
  induction steps generalizing now with
  | nil => exact h
  | cons s steps ih =>
    rw [List.forall_mem_cons] at hsteps
    exact ih (h.perform hsteps.1) hsteps.2

omit [Renderer ρ] in
theorem Step.given_of_spares {g : Generator ρ} {s : Step ρ} (h : s.Spares g) : s.given = [] := by
  cases s <;> first | rfl | exact h.elim

omit [Renderer ρ] in
theorem Spared.jobs_eq {before now : Generator ρ} (h : Spared before now) {added : List Mapping}
    (hadded : now.mappings = before.mappings ++ added) :
    now.jobsOf before.mappings = before.jobs ∧ now.jobs = before.jobs ++ now.jobsOf added := by
  have hsame : now.jobsOf before.mappings = before.jobs := by
    unfold jobsOf jobs
    refine List.flatMap_congr fun m hm => ?_
    have hmodels : m.modelsIn now.schema = m.modelsIn before.schema := by
      refine List.filterMap_congr fun i hi => ?_
      obtain ⟨x, hx, hnow⟩ := h.models m hm i hi
      rw [hnow, hx]
    simp only [contextOf, h.config, h.registry, hmodels]
  refine ⟨hsame, ?_⟩
  rw [← hsame, jobs, hadded, List.flatMap_append]
  rfl

/-! ## Two runs in lockstep -/

namespace Lockstep

variable {rest : List Source} {rs rs' out : List ρ}

theorem parsed (h : Lockstep rest rs rs') (hp : Parsed rs rest out) :
    ∃ out', Parsed rs' rest out' ∧ Lockstep [] out out' := by
  induction hp generalizing rs' with
  | nil => exact ⟨rs', .nil rs', h⟩
  | @cons rs out r x s rest hr hp _ ih =>
    rcases h.position s.renderer with ⟨hnone, -⟩ | ⟨r₁, r', hr₁, hr', halike⟩
    · cases hr.symm.trans hnone
    · obtain rfl : r = r₁ := Option.some.inj (hr.symm.trans hr₁)
      rw [boundTo_cons_self] at halike
      rcases hp' : Renderer.parse s r' with ⟨outcome, x'⟩
      obtain rfl : outcome = .ok () := by simpa only [hp, hp'] using halike.1.symm
      have hx := halike.2 (by rw [hp])
      rw [hp, hp'] at hx
      obtain ⟨out', hout, hlock⟩ := ih (h.set (fun _ hne => boundTo_cons_of_ne hne rest) hx)
      exact ⟨out', .cons hr' hp' hout, hlock⟩

theorem rendered {jobs : List (Source × Context)} {files : List OutputFile} (h : Lockstep [] rs rs')
    (hr : Rendered rs jobs files out) : ∃ out', Rendered rs' jobs files out' ∧ Lockstep [] out out' := by
  induction hr generalizing rs' with
  | nil => exact ⟨rs', .nil rs', h⟩
  | @template rs out r x s c text rest files ht hr hrender _ ih =>
    rcases h.position s.renderer with ⟨hnone, -⟩ | ⟨r₁, r', hr₁, hr', halike⟩
    · cases hr.symm.trans hnone
    · obtain rfl : r = r₁ := Option.some.inj (hr.symm.trans hr₁)
      obtain ⟨hsame, hx⟩ := halike.render s c
      rcases hrender' : Renderer.render s c r' with ⟨outcome, x'⟩
      obtain rfl : outcome = .ok text := by simpa only [hrender, hrender'] using hsame.symm
      rw [hrender, hrender'] at hx
      obtain ⟨out', hout, hlock⟩ := ih (h.set (fun _ _ => rfl) hx)
      exact ⟨out', .template ht hr' hrender' hout, hlock⟩
  | stored ht _ ih =>
    obtain ⟨out', hout, hlock⟩ := ih h
    exact ⟨out', .stored ht hout, hlock⟩

end Lockstep

theorem Rendered.length_eq {rs rs' : List ρ} {jobs : List (Source × Context)} {files : List OutputFile}
    (h : Rendered rs jobs files rs') : rs'.length = rs.length := by
  induction h with
  | nil => rfl
  | template _ _ _ _ ih => rw [ih, List.length_set]
  | stored _ _ ih => exact ih

theorem Rendered.trans {rs mid out : List ρ} {before after : List (Source × Context)} {front back : List OutputFile}
    (h : Rendered rs before front mid) (h' : Rendered mid after back out) :
    Rendered rs (before ++ after) (front ++ back) out := by
  induction h with
  | nil => exact h'
  | template ht hr hrender _ ih =>
    rw [List.append_assoc]
    exact .template ht hr hrender (ih h')
  | stored ht _ ih => exact .stored ht (ih h')

/-! ## The next run -/

/-- How a run ends behind files that are there already: with further ones, or at the first job that fails. -/
inductive GoesOn (rs : List ρ) (jobs : List (Source × Context)) (files : List OutputFile) :
    Except Error (List OutputFile) → Prop
  | done {more : List OutputFile} {out : List ρ} : Rendered rs jobs more out → GoesOn rs jobs files (.ok (files ++ more))
  | failed {before after : List (Source × Context)} {s : Source} {c : Context} {more : List OutputFile} {out : List ρ}
      {e : Error} : jobs = before ++ (s, c) :: after → Rendered rs before more out → RenderFails out s c e →
      GoesOn rs jobs files (.error e)

theorem process_goesOn {given : List ρ} {g : Generator ρ} (hgiven : ∀ r ∈ given, Renderer.StartsAfresh r)
    (h : Grown given g) {files : List OutputFile} (hok : (process g).1 = .ok files) {later : List (Step ρ)}
    (hlater : ∀ s ∈ later, s.Spares g) :
    let now := performAll later g
    ∃ added ready mid, now.mappings = g.mappings ++ added ∧
      Parsed (now.renderers.map Renderer.reset) now.registry.sources ready ∧
      Rendered ready (now.jobsOf g.mappings) files mid ∧ GoesOn mid (now.jobsOf added) files (process now).1 := by
  intro now
  have hstart : Spared g g := ⟨rfl, rfl, List.prefix_refl _, fun m hm i hi =>
    ⟨_, List.getElem?_eq_getElem (h.lt_length hm hi), List.getElem?_eq_getElem (h.lt_length hm hi)⟩⟩
  have hspared : Spared g now := hstart.performAll hlater
  obtain ⟨added, hadded⟩ := hspared.mappings
  obtain ⟨hsame, hjobs⟩ := hspared.jobs_eq hadded.symm
  -- no renderer has been handed over since, and all of them recover from what has been asked of them
  have hreached : Reached given now := by
    have hnone : later.flatMap Step.given = [] :=
      List.flatMap_eq_nil_iff.2 fun s hs => Step.given_of_spares (hlater s hs)
    simpa [hnone] using h.reached.performAll later
  have hlock := h.reached.lockstep hgiven hreached hspared.registry.symm
  cases ends_of_process h.reached.bound hok with
  | @done ready _ files hm hparsed hrendered =>
    obtain ⟨ready', hparsed', hlock'⟩ := hlock.parsed hparsed
    obtain ⟨mid, hrendered', -⟩ := hlock'.rendered hrendered
    rw [← hspared.registry] at hparsed'
    have hne : now.mappings ≠ [] := by
      rw [← hadded]
      simp [hm]
    refine ⟨added, ready', mid, hadded.symm, hparsed', hsame ▸ hrendered', ?_⟩
    have hbound : ∀ job ∈ now.jobsOf added, job.1.renderer < mid.length := by
      intro job hjob
      rw [hrendered'.length_eq, hparsed'.length_eq, List.length_map]
      exact (hreached.bound.jobs job (hjobs ▸ List.mem_append_right _ hjob)).2
    rcases rendered_or_fails hbound with ⟨more, out, hmore⟩ | ⟨before, s, c, after, more, out, e, heq, hmore, hfails⟩
    · have hdone : now.Ends (.ok (files ++ more)) := .done hne hparsed' (hjobs ▸ hrendered'.trans hmore)
      rw [show (process now).1 = _ from hdone.run_outcome hreached.bound]
      exact .done hmore
    · have hfailed : now.Ends (.error e) :=
        .unrendered hne hparsed' (by rw [hjobs, heq, List.append_assoc]) (hrendered'.trans hmore) hfails
      rw [show (process now).1 = _ from hfailed.run_outcome hreached.bound]
      exact .failed heq hmore hfails

/-- A run after models, other models' properties and mappings have been added begins with the files of the run before
them, and then come those of the mappings that are new, or it fails at one of these. The renderers besides template
renderers have to drop what a run has left when they are reset. -/
theorem process_begins_with {given : List (TemplateRenderer ⊕ ρ)} {g : Generator (TemplateRenderer ⊕ ρ)}
    (hothers : ∀ r, .inr r ∈ given → Renderer.StartsAfresh r) (h : Grown given g) {files : List OutputFile}
    (hok : (process g).1 = .ok files) {later : List (Step (TemplateRenderer ⊕ ρ))}
    (hlater : ∀ s ∈ later, s.Spares g) :
    let now := performAll later g
    ∃ added ready mid, now.mappings = g.mappings ++ added ∧
      Parsed (now.renderers.map Renderer.reset) now.registry.sources ready ∧
      Rendered ready (now.jobsOf g.mappings) files mid ∧ GoesOn mid (now.jobsOf added) files (process now).1 := by
  refine process_goesOn (fun r hr => ?_) h hok hlater
  cases r with
  | inl t => exact Renderer.carries_inl.startsAfresh t.startsAfresh
  | inr r => exact Renderer.carries_inr.startsAfresh (hothers r hr)

/-- A page of the mapped models does not get the ones that are added, although a later mapping has them too. -/
theorem process_begins_with_page :
    let page := "<<levo filename:a>>\x7b\x7b#each Models\x7d\x7d\x7b\x7bName\x7d\x7d\x7b\x7b/each\x7d\x7d<<levo>>"
    let steps : List (Step (TemplateRenderer ⊕ EchoRenderer)) :=
      [.registerRenderer (.inr ⟨"echo"⟩), .addTemplate "a.lt" (Bytes.ofText page) "1.0" "",
        .addTemplateWith "b.lt" [] "1.0" "" 1, .addModelNamed "Order", .addMapping ["a.lt"] ["Order"]]
    let later : List (Step (TemplateRenderer ⊕ EchoRenderer)) :=
      [.addModelNamed "Line", .addMapping ["b.lt"] ["Line"], .addMapping ["c.lt"] [], .process,
        .addProperty "Line" "sku" "" "int", .addMapping ["a.lt"] ["Line", "Order"]]
    let g := performAll steps (start {} (.inl {}))
    let files : List OutputFile := [⟨"a", "", Bytes.ofText "Order"⟩]
    (process g).1 = .ok files ∧ ∃ more, (process (performAll later g)).1 = .ok (files ++ more) := by
  intro page steps later g files
  have h : Grown ([.inl {}] ++ steps.flatMap Step.given) g := (Grown.start _ _).performAll steps
  have hok : (process g).1 = .ok files := by decide +kernel
  have hlater : ∀ s ∈ later, s.Spares g := by
    -- only the added property needs a look: no mapping of `g` has its model
    simp only [later, List.forall_mem_cons, Step.Spares, true_and]
    exact ⟨by decide, by simp⟩
  obtain ⟨added, ready, mid, -, -, -, hgoes⟩ := process_begins_with (fun r _ => r.startsAfresh) h hok hlater
  refine ⟨hok, ?_⟩
  have hdone : (process (performAll later g)).1.isOk = true := by decide +kernel
  generalize (process (performAll later g)).1 = outcome at hgoes hdone
  cases hgoes with
  | done => exact ⟨_, rfl⟩
  | failed => cases hdone

end Stencil.Generator
