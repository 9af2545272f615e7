import Mathlib.Data.List.Infix
import Stencil.Proofs.Generator.History
import Stencil.Proofs.Generator.Resolution
import Stencil.Renderer.Echo
/-!
# Mappings keep what they were resolved to

A mapping holds positions, and a position that does not exist is passed over without a word. It never happens: the
registry and the models are only appended to, a model that is there only gets further properties, and the names of
the models stay different, so that a position and a name go on to mean the same model.

`Keeps` says this of an earlier and a later generator, and `added` which properties have come since. Every step
keeps what is there (`Does.keeps`), so all steps together do (`keeps_performAll`), and that is enough for a mapping
to last (`Keeps.lasts`).
-/

namespace Stencil

/-! ## Positions in what grows -/

theorem select_of_prefix {r r' : Registry} {positions : List Nat} (h : r.sources <+: r'.sources)
    (hin : ∀ i ∈ positions, i < r.sources.length) : r'.select positions = r.select positions := by
  obtain ⟨added, hr⟩ := h
  refine List.filterMap_congr fun i hi => ?_
  rw [← hr, List.getElem?_append_left (hin i hi)]

/-- All positions exist, so none is passed over. -/
theorem length_select {r : Registry} {positions : List Nat} (hin : ∀ i ∈ positions, i < r.sources.length) :
    (r.select positions).length = positions.length := by
  have hall : r.select positions = positions.pmap (fun i hi => r.sources[i]) hin := by
    induction positions with
    | nil => rfl
    | cons i rest ih =>
      rw [List.forall_mem_cons] at hin
      rw [Registry.select, List.filterMap_cons, List.getElem?_eq_getElem hin.1, List.pmap_cons]
      exact congrArg _ (ih hin.2)
  rw [hall, List.length_pmap]

/-- Different positions in a registry are different sources. -/
theorem nodup_select {r : Registry} {positions : List Nat} (hd : r.Distinct) (h : positions.Nodup) :
    (r.select positions).Nodup := by
  have hsources : r.sources.Nodup := hd.of_map _
  refine h.filterMap fun i j s hi hj => ?_
  obtain ⟨hlt, -⟩ := List.getElem?_eq_some_iff.1 hi
  exact (List.getElem?_inj hlt hsources).1 (hi.trans hj.symm)

/-- A model can be put in the place of another one without a change of names. -/
theorem map_name_set {models : List Model} {i : Nat} {m m' : Model} (h : models[i]? = some m)
    (hname : m'.name = m.name) : (models.set i m').map (·.name) = models.map (·.name) := by
  obtain ⟨hi, rfl⟩ := List.getElem?_eq_some_iff.1 h
  rw [List.map_set, hname]
  refine List.ext_getElem? fun j => ?_
  rw [List.getElem?_set]
  split
  · next hij =>
    subst hij
    simp [hi]
  · rfl

theorem Schema.model?_of_getElem? {s : Schema} (hn : s.names.Nodup) {m : Model} {i : Nat}
    (h : s.models[i]? = some m) : s.model? m.name = some m := by
  obtain ⟨m', hm', -, hmodel⟩ := getElem?_of_position? (position?_of_getElem? hn h)
  obtain rfl : m = m' := Option.some.inj (h.symm.trans hm')
  exact hmodel

/-- The models of a mapping are those that now have its names, if every position means the same name still. -/
theorem Mapping.map_some_modelsIn {m : Mapping} {s s' : Schema} {names : List String}
    (hresolved : m.models.map some = names.map s.position?) (hn : s'.names.Nodup)
    (hlast : ∀ (i : Nat) (x : Model), s.models[i]? = some x →
      ∃ x' : Model, s'.models[i]? = some x' ∧ x'.name = x.name) :
    (m.modelsIn s').map some = names.map s'.model? := by
  unfold modelsIn
  generalize m.models = positions at hresolved
  induction positions generalizing names with
  | nil =>
    rw [List.map_nil, eq_comm, List.map_eq_nil_iff] at hresolved
    rw [hresolved]
    rfl
  | cons i rest ih =>
    cases names with
    | nil => cases hresolved
    | cons name names =>
      obtain ⟨hi, hrest⟩ := List.cons.inj hresolved
      obtain ⟨x, hx, rfl, -⟩ := Schema.getElem?_of_position? hi.symm
      obtain ⟨x', hx', hname⟩ := hlast i x hx
      rw [List.filterMap_cons, hx', List.map_cons, List.map_cons, ← hname, Schema.model?_of_getElem? hn hx',
        ih hrest]

namespace Generator

variable {ρ : Type} [Renderer ρ]

/-! ## One step -/

/-- The properties that a step has added to the model with the name, after its answer. -/
def Step.added (s : Step ρ) (name : String) (answer : Except Error Unit) : List Property :=
  match answer, s.property? with
  | .ok (), some (model, p) => if model = name then [p] else []
  | _, _ => []

omit [Renderer ρ] in
theorem Step.added_of_none {s : Step ρ} (h : s.property? = none) (name : String)
    (answer : Except Error Unit) : s.added name answer = [] := by
  cases answer <;> simp [added, h]

namespace Does

variable {g g' : Generator ρ} {s : Step ρ} {answer : Except Error Unit}

theorem prefix_sources (h : Does g s answer g') : g.registry.sources <+: g'.registry.sources := by
  cases h with
  | registry _ registry renderer _ _ hgrows =>
    obtain ⟨added, hr, -⟩ := hgrows
    exact ⟨added, hr.symm⟩
  | _ => exact List.prefix_refl _

theorem prefix_mappings (h : Does g s answer g') : g.mappings <+: g'.mappings := by
  cases h with
  | mapping => exact List.prefix_append _ _
  | _ => exact List.prefix_refl _

theorem distinct (h : Does g s answer g') (hd : g.registry.Distinct) : g'.registry.Distinct := by
  cases h with
  | registry _ registry renderer _ _ _ hdistinct => exact hdistinct hd
  | _ => exact hd

theorem nodup_names (h : Does g s answer g') (hn : g.schema.names.Nodup) : g'.schema.names.Nodup := by
  cases h with
  | models _ project added _ _ hfresh hnodup =>
    rw [Schema.names, List.map_append, List.nodup_append']
    refine ⟨hn, hnodup, fun name hold hnew => ?_⟩
    obtain ⟨m, hm, rfl⟩ := List.mem_map.1 hnew
    exact hfresh m hm hold
  | property _ _ _ _ hm =>
    rw [Schema.names, map_name_set hm (Model.name_extend _ _)]
    exact hn
  | _ => exact hn

/-- A model stays at its position, and gets the properties that the step adds to it. -/
theorem getElem?_models (h : Does g s answer g') (hn : g.schema.names.Nodup) {i : Nat} {m : Model}
    (hm : g.schema.models[i]? = some m) :
    g'.schema.models[i]? = some (m.extend (s.added m.name answer)) := by
  cases h with
  | refused => simpa [Step.added] using hm
  | config _ _ _ hp | registry _ _ _ _ hp => simpa [Step.added_of_none hp] using hm
  | models _ project added _ hp =>
    rw [Step.added_of_none hp, Model.extend_nil, List.getElem?_append_left (List.getElem?_eq_some_iff.1 hm).1]
    exact hm
  | @property _ j m' p _ hp hj hm' =>
    have hadded : s.added m.name (.ok ()) = if m'.name = m.name then [p] else [] := by
      simp only [Step.added, hp]
    rw [hadded, List.getElem?_set]
    by_cases hij : j = i
    · subst hij
      obtain rfl : m' = m := Option.some.inj (hm'.symm.trans hm)
      simp [(List.getElem?_eq_some_iff.1 hm).1]
    · -- different positions are different names
      have hne : m'.name ≠ m.name := by
        intro hname
        rw [hname, Schema.position?_of_getElem? hn hm] at hj
        exact hij (Option.some.inj hj).symm
      rw [if_neg hij, if_neg hne, Model.extend_nil]
      exact hm
  | mapping | renderer | run =>
    rw [Step.added_of_none rfl, Model.extend_nil]
    exact hm

end Does

/-! ## Many steps -/

/-- What a later generator keeps of an earlier one, where `added` are the properties that the models have got since,
by their names. -/
structure Keeps (before now : Generator ρ) (added : String → List Property) : Prop where
  sources : before.registry.sources <+: now.registry.sources
  mappings : before.mappings <+: now.mappings
  nodup_names : before.schema.names.Nodup → now.schema.names.Nodup
  models : before.schema.names.Nodup → ∀ {i : Nat} {m : Model}, before.schema.models[i]? = some m →
    now.schema.models[i]? = some (m.extend (added m.name))

theorem Does.keeps {g g' : Generator ρ} {s : Step ρ} {answer : Except Error Unit} (h : Does g s answer g') :
    Keeps g g' fun name => s.added name answer where
  sources := h.prefix_sources
  mappings := h.prefix_mappings
  nodup_names := h.nodup_names
  models hn _ _ hm := h.getElem?_models hn hm

omit [Renderer ρ] in
theorem Keeps.refl (g : Generator ρ) : Keeps g g fun _ => [] where
  sources := List.prefix_refl _
  mappings := List.prefix_refl _
  nodup_names hn := hn
  models _ _ m hm := by rw [Model.extend_nil, hm]

omit [Renderer ρ] in
theorem Keeps.trans {g g' g'' : Generator ρ} {first second : String → List Property} (h : Keeps g g' first)
    (h' : Keeps g' g'' second) : Keeps g g'' fun name => first name ++ second name where
  sources := h.sources.trans h'.sources
  mappings := h.mappings.trans h'.mappings
  nodup_names hn := h'.nodup_names (h.nodup_names hn)
  models hn _ m hm := by
    have hlater := h'.models (h.nodup_names hn) (h.models hn hm)
    rw [Model.extend_extend, Model.name_extend] at hlater
    exact hlater

/-- The properties that steps add to the model with the name, in order. -/
def added (name : String) : List (Step ρ) → Generator ρ → List Property
  | [], _ => []
  | s :: steps, g => s.added name (s.perform g).1 ++ added name steps (s.perform g).2

theorem keeps_performAll (steps : List (Step ρ)) (g : Generator ρ) :
    Keeps g (performAll steps g) fun name => added name steps g := by
  induction steps generalizing g with
  | nil => exact .refl g
  | cons s steps ih => exact (does_perform s g).keeps.trans (ih _)

/-! ## Reachable generators -/

/-- No two sources of a generator that can be reached stand at the same place. -/
theorem Reached.distinct {given : List ρ} {g : Generator ρ} (h : Reached given g) : g.registry.Distinct := by
  induction h with
  | start => exact List.nodup_nil
  | @step given g s _ ih => exact (does_perform s g).distinct ih
  | edit _ _ ih => exact ih
  | render _ _ _ _ ih => exact ih

/-- No mapping of a generator that can be reached has a source twice. -/
theorem Reached.nodup_sourcesIn {given : List ρ} {g : Generator ρ} (h : Reached given g) {m : Mapping}
    (hm : m ∈ g.mappings) : (m.sourcesIn g.registry).Nodup := by
  refine nodup_select h.distinct ?_
  induction h with
  | start => cases hm
  | @step given g s _ ih =>
    have hs := does_perform s g
    generalize (s.perform g).1 = answer, (s.perform g).2 = g' at hs hm
    cases hs with
    | mapping hresolve =>
      rcases List.mem_append.1 hm with hm | hm
      · exact ih hm
      · rw [List.mem_singleton.1 hm]
        exact Mapping.nodup_sources hresolve
    | _ => exact ih hm
  | edit _ _ ih => exact ih hm
  | render _ _ _ _ ih => exact ih hm

omit [Renderer ρ] in
theorem addMapping_eq_ok {sourceNames modelNames : List String} {g g' : Generator ρ} {m : Mapping}
    (h : addMapping sourceNames modelNames g = (.ok m, g')) :
    Mapping.resolve g.registry g.schema sourceNames modelNames = .ok m ∧
      g' = { g with mappings := g.mappings ++ [m] } := by
  unfold addMapping at h
  split at h
  · next hm =>
    cases h
    exact ⟨hm, rfl⟩
  · cases h

/-- What a mapping that was resolved from names in an earlier generator leads to now: the sources that it had
then, and the models that have the names now, with what has been added to them. -/
structure Lasts (before now : Generator ρ) (sourceNames modelNames : List String)
    (added : String → List Property) (m : Mapping) : Prop where
  kept : m ∈ now.mappings
  sourcesIn_eq : m.sourcesIn now.registry = sourceNames.eraseDups.flatMap fun name =>
    before.registry.sources.filter (·.fileName == name)
  sourcesIn_ne_nil : m.sourcesIn now.registry ≠ []
  nodup_sourcesIn : (m.sourcesIn now.registry).Nodup
  length_sourcesIn : (m.sourcesIn now.registry).length = m.sources.length
  modelsIn_eq : (m.modelsIn now.schema).map some = modelNames.map now.schema.model?
  length_modelsIn : (m.modelsIn now.schema).length = m.models.length
  extended : ∀ name ∈ modelNames, ∃ old, before.schema.model? name = some old ∧
    now.schema.model? name = some (old.extend (added name))

omit [Renderer ρ] in
/-- A mapping that was resolved in a generator lasts in a later one that keeps the mapping as well. -/
theorem Keeps.lasts {before now : Generator ρ} {added : String → List Property} {m : Mapping}
    {sourceNames modelNames : List String} (h : Keeps before now added) (hd : before.registry.Distinct)
    (hn : before.schema.names.Nodup)
    (hresolve : Mapping.resolve before.registry before.schema sourceNames modelNames = .ok m)
    (hkept : m ∈ now.mappings) : Lasts before now sourceNames modelNames added m := by
  obtain ⟨hsources, hne, hmodels⟩ := Mapping.resolve_eq_ok hresolve
  have hin := Mapping.lt_length_of_mem_sources hresolve
  have hselect : m.sourcesIn now.registry = before.registry.select m.sources := select_of_prefix h.sources hin
  have hlength : (m.sourcesIn now.registry).length = m.sources.length := by rw [hselect, length_select hin]
  have hmodelsIn : (m.modelsIn now.schema).map some = modelNames.map now.schema.model? :=
    Mapping.map_some_modelsIn hmodels (h.nodup_names hn) fun _ _ hx => ⟨_, h.models hn hx, Model.name_extend _ _⟩
  exact
    { kept := hkept
      sourcesIn_eq := by rw [hselect, hsources, Registry.select_flatMap_positions]
      sourcesIn_ne_nil := by
        rw [← List.length_pos_iff, hlength, List.length_pos_iff]
        exact hne
      nodup_sourcesIn := by
        rw [hselect]
        exact nodup_select hd (Mapping.nodup_sources hresolve)
      length_sourcesIn := hlength
      modelsIn_eq := hmodelsIn
      length_modelsIn := by
        have hnow := congrArg List.length hmodelsIn
        have hthen := congrArg List.length hmodels
        simp only [List.length_map] at hnow hthen
        rw [hnow, hthen]
      extended := by
        intro name hname
        have hsome : before.schema.position? name ∈ m.models.map some := by
          rw [hmodels]
          exact List.mem_map_of_mem hname
        obtain ⟨i, -, hi⟩ := List.mem_map.1 hsome
        obtain ⟨old, hold, rfl, hmodel⟩ := Schema.getElem?_of_position? hi.symm
        have hfound := Schema.model?_of_getElem? (h.nodup_names hn) (h.models hn hold)
        rw [Model.name_extend] at hfound
        exact ⟨old, hmodel, hfound⟩ }

/-- A mapping that has been added keeps leading to its sources and its models, whatever steps follow; and the
names of the models are different at every time. -/
theorem addMapping_lasts (config : Config) (r : ρ) (past : List (Step ρ)) :
    (performAll past (start config r)).schema.names.Nodup ∧
      ∀ (sourceNames modelNames : List String) (m : Mapping) (g : Generator ρ),
        addMapping sourceNames modelNames (performAll past (start config r)) = (.ok m, g) →
        ∀ later : List (Step ρ), Lasts (performAll past (start config r)) (performAll later g)
          sourceNames modelNames (fun name => added name later g) m := by
  have hreached := (Reached.start config r).performAll past
  have hn := (keeps_performAll past (start config r)).nodup_names List.nodup_nil
  generalize performAll past (start config r) = before at hreached hn ⊢
  refine ⟨hn, fun sourceNames modelNames m g h later => ?_⟩
  obtain ⟨hresolve, rfl⟩ := addMapping_eq_ok h
  -- the mapping itself is all that is new before the later steps
  have hadd : Keeps before { before with mappings := before.mappings ++ [m] } fun _ => [] :=
    (Does.mapping hresolve).keeps
  have hlater := keeps_performAll later { before with mappings := before.mappings ++ [m] }
  have hm : m ∈ before.mappings ++ [m] := List.mem_append_right _ List.mem_cons_self
  exact (hadd.trans hlater).lasts hreached.distinct hn hresolve (hlater.mappings.subset hm)

/-- A name that is given twice counts once for sources and twice for models. Later sources of that name and later
models do not get in. -/
theorem addMapping_lasts_repeated :
    let past : List (Step EchoRenderer) :=
      [.addModelNamed "Order", .addModelNamed "Line", .addTemplate "a.lt" [] "1.0" "src",
        .addTemplate "b.lt" [] "1.0" "", .addTemplate "a.lt" [] "1.0" "test"]
    let later : List (Step EchoRenderer) :=
      [.addTemplate "a.lt" [] "1.0" "docs", .addProperty "Line" "sku" "" "string",
        .addModelNamed "Customer", .process, .addProperty "Order" "id" "" "int", .addProperty "Order" "id" "" "int"]
    let before := performAll past (start {} ⟨"echo"⟩)
    let mapped := addMapping ["b.lt", "a.lt", "b.lt"] ["Order", "Order"] before
    mapped.1 = .ok ⟨[1, 0, 2], [0, 0]⟩ ∧
      added "Order" later mapped.2 = [.ofCall "id" "" "int"] ∧
      Lasts before (performAll later mapped.2) ["b.lt", "a.lt", "b.lt"] ["Order", "Order"]
        (fun name => added name later mapped.2) ⟨[1, 0, 2], [0, 0]⟩ := by
  intro past later before mapped
  have hmapped : mapped.1 = .ok ⟨[1, 0, 2], [0, 0]⟩ := by decide
  have hadded : added "Order" later mapped.2 = [.ofCall "id" "" "int"] := by decide
  have h : addMapping ["b.lt", "a.lt", "b.lt"] ["Order", "Order"] before = (.ok ⟨[1, 0, 2], [0, 0]⟩, mapped.2) :=
    Prod.ext hmapped rfl
  exact ⟨hmapped, hadded, (addMapping_lasts {} (EchoRenderer.mk "echo") past).2 _ _ _ _ h later⟩

end Generator

end Stencil
