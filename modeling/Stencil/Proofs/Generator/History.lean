import Stencil.Proofs.Generator.Sources
import Stencil.Proofs.Schema.Growth
/-!
# What can happen to a generator

A `Step` is a call of a generator, with the renderers that it hands over. `Effect` says what a step can
do: it changes one part of the generator and leaves the others, and what it does to the renderers and
to the registry is said exactly. `Asked` does the same for what a run does to the renderers.

`Reached` collects the generators that callers can come to. Besides the steps they may edit models that
they hold, and let a renderer render outside of a run.
-/

namespace Stencil.Generator

variable {ρ : Type} [Renderer ρ]

/-! ## Steps -/

/-- A call of a generator. -/
inductive Step (ρ : Type) where
  | addModel (m : Model)
  | addModelNamed (name : String)
  | addProperty (model remote localName type : String)
  | loadSchema (incoming : Schema)
  | loadDocument (document : String)
  | loadSchemaFile (tree : FileTree) (current : Place) (path : String)
  | addTemplate (fileName : String) (contents : Bytes) (version directory : String)
  | addTemplateWith (fileName : String) (contents : Bytes) (version directory : String) (renderer : Nat)
  | addTemplateFile (tree : FileTree) (current : Place) (path : String)
  | addTemplateDirectory (tree : FileTree) (current : Place) (path : String)
  | addMapping (sourceNames modelNames : List String)
  | addFeature (name : String)
  | removeFeature (name : String)
  | registerRenderer (renderer : ρ)
  | process

namespace Step

/-- The call, without its result. -/
def perform : Step ρ → Operation ρ Unit
  | addModel m => Generator.addModel m
  | addModelNamed name => Generator.addModelNamed name
  | addProperty model remote localName type => Generator.addProperty model remote localName type
  | loadSchema incoming => Generator.loadSchema incoming
  | loadDocument document => Generator.loadDocument document
  | loadSchemaFile tree current path => Generator.loadSchemaFile tree current path
  | addTemplate fileName contents version directory =>
    Generator.addTemplate fileName contents version directory
  | addTemplateWith fileName contents version directory renderer =>
    Generator.addTemplateWith fileName contents version directory renderer
  | addTemplateFile tree current path => Generator.addTemplateFile tree current path
  | addTemplateDirectory tree current path => Generator.addTemplateDirectory tree current path
  | addMapping sourceNames modelNames => fun g =>
    let (outcome, g) := Generator.addMapping sourceNames modelNames g
    (outcome.map fun _ => (), g)
  | addFeature name => fun g => (.ok (), g.addFeature name)
  | removeFeature name => fun g => (.ok (), g.removeFeature name)
  | registerRenderer renderer => fun g => (.ok (), (g.registerRenderer renderer).2)
  | process => fun g =>
    let (outcome, g) := Generator.process g
    (outcome.map fun _ => (), g)

/-- The renderers that the call hands over. -/
def given : Step ρ → List ρ
  | registerRenderer renderer => [renderer]
  | _ => []

end Step

/-- The generator after steps, one after another. -/
def performAll (steps : List (Step ρ)) (g : Generator ρ) : Generator ρ :=
  steps.foldl (fun g s => (s.perform g).2) g

/-! ## What a step does -/

/-- The name of a model and the property to be added to it, if that is what the step asks for. -/
def Step.property? : Step ρ → Option (String × Property)
  | addProperty model remote localName type => some (model, .ofCall remote localName type)
  | _ => none

/-- What a step does, and what it answers. A step that is refused changes nothing; a run changes the renderers,
whatever it answers. -/
inductive Does (g : Generator ρ) : Step ρ → Except Error Unit → Generator ρ → Prop
  | refused (s : Step ρ) (e : Error) : s.given = [] → Does g s (.error e) g
  | config (s : Step ρ) (config : Config) : s.given = [] → s.property? = none →
      Does g s (.ok ()) { g with config }
  | models (s : Step ρ) (project : String) (added : List Model) : s.given = [] → s.property? = none →
      (∀ m ∈ added, m.name ∉ g.schema.names) → (added.map (·.name)).Nodup →
      Does g s (.ok ()) { g with schema := ⟨project, g.schema.models ++ added⟩ }
  | property (s : Step ρ) {i : Nat} {m : Model} {p : Property} : s.given = [] →
      s.property? = some (m.name, p) → g.schema.position? m.name = some i → g.schema.models[i]? = some m →
      Does g s (.ok ())
        { g with schema := { g.schema with models := g.schema.models.set i (m.extend [p]) } }
  | registry (s : Step ρ) (registry : Registry) (renderer : Nat) : s.given = [] → s.property? = none →
      g.registry.Grows registry renderer → (g.registry.Distinct → registry.Distinct) →
      (renderer = 0 ∨ renderer < g.renderers.length) → Does g s (.ok ()) { g with registry }
  | mapping {sourceNames modelNames : List String} {m : Mapping} :
      Mapping.resolve g.registry g.schema sourceNames modelNames = .ok m →
      Does g (.addMapping sourceNames modelNames) (.ok ()) { g with mappings := g.mappings ++ [m] }
  | renderer (r : ρ) : Does g (.registerRenderer r) (.ok ()) { g with renderers := g.renderers ++ [r] }
  | run : Does g .process (g.run.outcome.map fun _ => ()) { g with renderers := g.run.renderers }

namespace Does

variable {g g' : Generator ρ} {s : Step ρ} {answer : Except Error Unit}

theorem of_eq (h : s.perform g = (answer, g')) (hd : Does g s answer g') :
    Does g s (s.perform g).1 (s.perform g).2 := by
  rw [h]
  exact hd

/-- A step that loads a schema, once it has been read. -/
theorem loadSchema {incoming : Schema} (h : s.perform g = g.loadSchema incoming) (hs : s.given = [])
    (hp : s.property? = none) : Does g s (s.perform g).1 (s.perform g).2 := by
  rcases loadSchema_cases incoming g with ⟨e, hl⟩ | ⟨project, hfresh, hnodup, hl⟩
  · exact of_eq (h.trans hl) (.refused s e hs)
  · refine of_eq (h.trans hl) (.models s project _ hs hp ?_ (by simpa [Function.comp_def] using hnodup))
    intro m hm
    obtain ⟨m', hm', rfl⟩ := List.mem_map.1 hm
    exact hfresh m' hm'

/-- A step that reads a schema first. -/
theorem loadRead {read : Except Error Schema}
    (h : s.perform g = match read with
      | .error e => (.error e, g)
      | .ok incoming => g.loadSchema incoming)
    (hs : s.given = []) (hp : s.property? = none) : Does g s (s.perform g).1 (s.perform g).2 := by
  cases read with
  | error e => exact of_eq h (.refused s e hs)
  | ok incoming => exact loadSchema h hs hp

/-- A step that registers sources for a renderer. -/
theorem changeRegistry {change : Registry → Except Error Registry} {renderer : Nat}
    (h : s.perform g = Generator.changeRegistry change g) (hs : s.given = []) (hp : s.property? = none)
    (hgrows : ∀ r r', change r = .ok r' → r.Grows r' renderer ∧ (r.Distinct → r'.Distinct))
    (hr : renderer = 0 ∨ renderer < g.renderers.length) : Does g s (s.perform g).1 (s.perform g).2 := by
  unfold Generator.changeRegistry at h
  cases hc : change g.registry with
  | error e =>
    rw [hc] at h
    exact of_eq h (.refused s e hs)
  | ok registry =>
    rw [hc] at h
    obtain ⟨hg, hd⟩ := hgrows _ _ hc
    exact of_eq h (.registry s registry renderer hs hp hg hd hr)

theorem addTemplateWith {fileName : String} {contents : Bytes} {version directory : String} {renderer : Nat}
    (h : s.perform g = g.addTemplateWith fileName contents version directory renderer)
    (hs : s.given = []) (hp : s.property? = none) : Does g s (s.perform g).1 (s.perform g).2 := by
  unfold Generator.addTemplateWith at h
  split at h
  · next hr =>
    exact changeRegistry h hs hp (fun _ _ hc => ⟨Registry.grows_add hc, Registry.distinct_add hc⟩) (.inr hr)
  · exact of_eq h (.refused s _ hs)

end Does

/-- A step does one of these things. -/
theorem does_perform (s : Step ρ) (g : Generator ρ) : Does g s (s.perform g).1 (s.perform g).2 := by
  cases s with
  | addModel m =>
    rcases addModel_cases m g with ⟨e, h⟩ | ⟨hm, h⟩
    · exact .of_eq h (.refused _ e rfl)
    · exact .of_eq h (.models _ _ [m.withLocalNames] rfl rfl (by simpa using hm) (by simp))
  | addModelNamed name =>
    by_cases hname : name.isEmpty = true
    · have heq : Step.perform (.addModelNamed name) g = (.error (.invalid .newModelWithoutName), g) := by
        simp only [Step.perform, Generator.addModelNamed, if_pos hname]
      exact .of_eq heq (.refused _ _ rfl)
    · have heq : Step.perform (.addModelNamed name) g = addModel { name } g := by
        simp only [Step.perform, Generator.addModelNamed, if_neg hname]
      rcases addModel_cases { name } g with ⟨e, h⟩ | ⟨hm, h⟩
      · exact .of_eq (heq.trans h) (.refused _ e rfl)
      · exact .of_eq (heq.trans h) (.models _ _ [_] rfl rfl (by simpa using hm) (by simp))
  | addProperty model remote localName type =>
    rcases addProperty_cases model remote localName type g with ⟨e, h⟩ | ⟨i, m, hi, hm, rfl, h⟩
    · exact .of_eq h (.refused _ e rfl)
    · exact .of_eq h (.property _ rfl rfl hi hm)
  | loadSchema incoming => exact .loadSchema rfl rfl rfl
  | loadDocument document => exact .loadRead rfl rfl rfl
  | loadSchemaFile tree current path => exact .loadRead rfl rfl rfl
  | addTemplate fileName contents version directory => exact .addTemplateWith rfl rfl rfl
  | addTemplateWith fileName contents version directory renderer => exact .addTemplateWith rfl rfl rfl
  | addTemplateFile tree current path =>
    exact .changeRegistry rfl rfl rfl
      (fun _ _ hc => ⟨Registry.grows_addFile hc, Registry.distinct_addFile hc⟩) (.inl rfl)
  | addTemplateDirectory tree current path =>
    exact .changeRegistry rfl rfl rfl
      (fun _ _ hc => ⟨Registry.grows_addDirectory hc, Registry.distinct_addDirectory hc⟩) (.inl rfl)
  | addMapping sourceNames modelNames =>
    simp only [Step.perform, Generator.addMapping]
    cases h : Mapping.resolve g.registry g.schema sourceNames modelNames with
    | error e => exact .refused _ e rfl
    | ok m => exact .mapping h
  | addFeature name => exact .config _ _ rfl rfl
  | removeFeature name => exact .config _ _ rfl rfl
  | registerRenderer renderer => exact .renderer renderer
  | process => exact .run

/-! ## What a step changes -/

/-- The change of a generator by a step, whatever it answers. -/
inductive Effect (g : Generator ρ) : Step ρ → Generator ρ → Prop
  | config (s : Step ρ) (config : Config) : s.given = [] → Effect g s { g with config }
  | schema (s : Step ρ) (schema : Schema) : s.given = [] → Effect g s { g with schema }
  | registry (s : Step ρ) (registry : Registry) (renderer : Nat) : s.given = [] →
      g.registry.Grows registry renderer → (renderer = 0 ∨ renderer < g.renderers.length) →
      Effect g s { g with registry }
  | mappings (s : Step ρ) (mappings : List Mapping) : s.given = [] → Effect g s { g with mappings }
  | renderer (r : ρ) : Effect g (.registerRenderer r) { g with renderers := g.renderers ++ [r] }
  | run : Effect g .process { g with renderers := g.run.renderers }

/-- What a step does is one of its effects. -/
theorem effect_perform (s : Step ρ) (g : Generator ρ) : Effect g s (s.perform g).2 := by
  have h := does_perform s g
  generalize (s.perform g).1 = answer, (s.perform g).2 = g' at h ⊢
  cases h with
  | refused _ e hs => exact .config s g.config hs
  | config _ config hs => exact .config s config hs
  | models _ project added hs => exact .schema s _ hs
  | property _ hs => exact .schema s _ hs
  | registry _ registry renderer hs _ hgrows _ hr => exact .registry s registry renderer hs hgrows hr
  | mapping => exact .mappings _ _ rfl
  | renderer r => exact .renderer r
  | run => exact .run

/-! ## What a run asks of the renderers -/

/-- The renderers after some have been asked, one after another, to parse one of the sources that they
are bound to or to render something. -/
inductive Asked (sources : List Source) : List ρ → List ρ → Prop
  | refl (rs : List ρ) : Asked sources rs rs
  | parse {rs rs' : List ρ} {s : Source} {r : ρ} : Asked sources rs rs' → s ∈ sources →
      rs'[s.renderer]? = some r → Asked sources rs (rs'.set s.renderer (Renderer.parse s r).2)
  | render {rs rs' : List ρ} {i : Nat} {r : ρ} (s : Source) (c : Context) : Asked sources rs rs' →
      rs'[i]? = some r → Asked sources rs (rs'.set i (Renderer.render s c r).2)

theorem Asked.length_eq {sources : List Source} {rs rs' : List ρ} (h : Asked sources rs rs') :
    rs'.length = rs.length := by
  induction h with
  | refl => rfl
  | parse _ _ _ ih => rw [List.length_set, ih]
  | render _ _ _ _ ih => rw [List.length_set, ih]

theorem Asked.trans {sources : List Source} {rs rs' rs'' : List ρ} (h : Asked sources rs rs')
    (h' : Asked sources rs' rs'') : Asked sources rs rs'' := by
  induction h' with
  | refl => exact h
  | parse _ hs hr ih => exact .parse ih hs hr
  | render s c _ hr ih => exact .render s c ih hr

theorem asked_parseAll {sources rest : List Source} (hrest : rest ⊆ sources) (rs : List ρ) :
    Asked sources rs (parseAll rs rest).renderers := by
  induction rest generalizing rs with
  | nil => exact .refl rs
  | cons s rest ih =>
    rw [List.cons_subset] at hrest
    unfold parseAll
    cases hr : rs[s.renderer]? with
    | none => exact .refl rs
    | some r =>
      have hone : Asked sources rs (rs.set s.renderer (Renderer.parse s r).2) :=
        .parse (.refl rs) hrest.1 hr
      rcases hp : Renderer.parse s r with ⟨outcome, r'⟩
      rw [hp] at hone
      cases outcome with
      | error e => simpa only [hp] using hone
      | ok u => simpa only [hp] using hone.trans (ih hrest.2 _)

/-- The files are those in the text, and only rendering changes the renderer. -/
theorem generate_eq (s : Source) (c : Context) (r : ρ) : Renderer.generate s c r =
    ((Renderer.render s c r).1.map (extractFiles · s.directory), (Renderer.render s c r).2) := by
  unfold Renderer.generate
  rcases Renderer.render s c r with ⟨_ | _, _⟩ <;> rfl

theorem asked_processSource (sources : List Source) (rs : List ρ) (s : Source) (c : Context) :
    Asked sources rs (processSource rs s c).renderers := by
  unfold processSource
  cases hr : rs[s.renderer]? with
  | none => exact .refl rs
  | some r =>
    cases s.body with
    | opaqueFile armored => exact .refl rs
    | template text =>
      simp only [generate_eq]
      exact .render s c (.refl rs) hr

theorem asked_processAll (sources : List Source) (jobs : List (Source × Context)) (rs : List ρ) :
    Asked sources rs (processAll rs jobs).renderers := by
  induction jobs generalizing rs with
  | nil => exact .refl rs
  | cons job jobs ih =>
    obtain ⟨s, c⟩ := job
    have hone := asked_processSource sources rs s c
    unfold processAll
    cases ho : (processSource rs s c).outcome with
    | error e => simpa only [ho] using hone
    | ok files => simpa only [ho] using hone.trans (ih _)

/-- A run leaves the renderers alone, or resets all of them and then asks. -/
theorem asked_run (g : Generator ρ) : g.run.renderers = g.renderers ∨
    Asked g.registry.sources (g.renderers.map Renderer.reset) g.run.renderers := by
  unfold run
  split
  · exact .inl rfl
  · refine .inr ?_
    have hparsed := asked_parseAll (List.Subset.refl g.registry.sources) (g.renderers.map Renderer.reset)
    simp only
    split
    · exact hparsed
    · exact hparsed.trans (asked_processAll g.registry.sources g.jobs _)

theorem length_run (g : Generator ρ) : g.run.renderers.length = g.renderers.length := by
  rcases asked_run g with h | h
  · rw [h]
  · rw [h.length_eq, List.length_map]

/-! ## The generators that can be reached -/

/-- The generators that callers can come to, with the renderers that were handed over on the way, as
they were then. -/
inductive Reached : List ρ → Generator ρ → Prop
  | start (config : Config) (r : ρ) : Reached [r] (start config r)
  | step {given : List ρ} {g : Generator ρ} (s : Step ρ) : Reached given g →
      Reached (given ++ s.given) (s.perform g).2
  | edit {given : List ρ} {g : Generator ρ} (models : List Model) : Reached given g →
      Reached given { g with schema := { g.schema with models } }
  | render {given : List ρ} {g : Generator ρ} {i : Nat} {r : ρ} (s : Source) (c : Context) :
      Reached given g → g.renderers[i]? = some r →
      Reached given { g with renderers := g.renderers.set i (Renderer.render s c r).2 }

namespace Reached

variable {given : List ρ} {g : Generator ρ}

/-- The renderers are those that were handed over, however worn they are. -/
theorem length_renderers (h : Reached given g) :
    g.renderers.length = given.length ∧ 0 < g.renderers.length := by
  induction h with
  | start => exact ⟨rfl, Nat.zero_lt_one⟩
  | @step given g s _ ih =>
    have he := effect_perform s g
    generalize (s.perform g).2 = g' at he
    cases he with
    | renderer r => simp [Step.given, ih.1]
    | run => simpa [Step.given, length_run] using ih
    | config _ _ h0 | schema _ _ h0 | registry _ _ _ h0 | mappings _ _ h0 =>
      rw [h0, List.append_nil]
      exact ih
  | edit _ _ ih => exact ih
  | render _ _ _ _ ih => simpa using ih

/-- All sources are made from files and bound to renderers. -/
theorem bound (h : Reached given g) : g.Bound := by
  induction h with
  | start => exact fun _ hs => nomatch hs
  | @step given g s hg ih =>
    have he := effect_perform s g
    generalize (s.perform g).2 = g' at he
    cases he with
    | registry _ registry i _ hgrow hi =>
      obtain ⟨added, hr, hadded⟩ := hgrow
      intro s' hs'
      simp only [hr, List.mem_append] at hs'
      rcases hs' with hs' | hs'
      · exact ih s' hs'
      · -- an added source is bound to the default renderer or to one that was asked for
        obtain ⟨hfile, rfl⟩ := hadded s' hs'
        refine ⟨hfile, ?_⟩
        rcases hi with hi | hi
        · rw [hi]
          exact hg.length_renderers.2
        · exact hi
    | renderer r =>
      intro s' hs'
      refine ⟨(ih s' hs').1, ?_⟩
      simpa using Nat.lt_succ_of_lt (ih s' hs').2
    | run => exact fun s' hs' => ⟨(ih s' hs').1, by simpa only [length_run] using (ih s' hs').2⟩
    | _ => exact ih
  | edit _ _ ih => exact ih
  | render _ _ _ _ ih => exact fun s' hs' => ⟨(ih s' hs').1, by simpa using (ih s' hs').2⟩

/-- Steps lead from one generator that can be reached to another. -/
theorem performAll (h : Reached given g) (steps : List (Step ρ)) :
    Reached (given ++ steps.flatMap Step.given) (performAll steps g) := by
  induction steps generalizing given g with
  | nil => simpa [Generator.performAll] using h
  | cons s steps ih =>
    rw [List.flatMap_cons, ← List.append_assoc]
    exact ih (h.step s)

end Reached

end Stencil.Generator
