import Mathlib.Data.List.Nodup
import Stencil.Generator.Basic
/-!
# What a schema takes in

A schema only grows: models with new names are appended, and properties are appended to models that are there.
For every operation of a generator on its schema there is one lemma that says what it does when it succeeds, and
that otherwise it does nothing.

Loading a schema adds its models one after another, and could be refused in the middle of it. It is not, because
`clash?` has looked at all names before (`addModels_eq_ok`).
-/

namespace Stencil

/-! ## Names and positions -/

namespace Schema

variable {s : Schema} {name : String} {i : Nat}

/-- The names of the models in order. -/
def names (s : Schema) : List String := s.models.map (·.name)

theorem position?_eq_none_iff : s.position? name = none ↔ name ∉ s.names := by
  simp [position?, names, List.findIdx?_eq_none_iff]

/-- A position that is found is that of the model that is found. -/
theorem getElem?_of_position? (h : s.position? name = some i) :
    ∃ m, s.models[i]? = some m ∧ m.name = name ∧ s.model? name = some m := by
  obtain ⟨hi, hname, hfirst⟩ := List.findIdx?_eq_some_iff_getElem.1 h
  refine ⟨s.models[i], List.getElem?_eq_getElem hi, eq_of_beq hname, ?_⟩
  rw [model?, List.find?_eq_some_iff_getElem]
  exact ⟨hname, i, hi, rfl, fun j hj => by simpa using hfirst j hj⟩

/-- With different names every model is found under its own. -/
theorem position?_of_getElem? (hn : s.names.Nodup) {m : Model} (h : s.models[i]? = some m) :
    s.position? m.name = some i := by
  obtain ⟨hi, rfl⟩ := List.getElem?_eq_some_iff.1 h
  refine List.findIdx?_eq_some_iff_getElem.2 ⟨hi, beq_self_eq_true _, fun j hj => ?_⟩
  rw [beq_iff_eq]
  intro hname
  refine List.nodup_iff_getElem?_ne_getElem?.1 hn j i hj (by rwa [names, List.length_map]) ?_
  rw [names, List.getElem?_map, List.getElem?_map, List.getElem?_eq_getElem hi,
    List.getElem?_eq_getElem (Nat.lt_trans hj hi), Option.map_some, Option.map_some, hname]

end Schema

/-! ## Models and properties -/

/-- The property that a call asks for. -/
def Property.ofCall (remote localName type : String) : Property :=
  ⟨remote, if localName.isEmpty then remote else localName, (splitSetMarker type).1, (splitSetMarker type).2⟩

/-- The local identifiers of the properties in order. -/
def Model.localNames (m : Model) : List String := m.properties.map (·.localName)

/-- The model with further properties. -/
def Model.extend (m : Model) (added : List Property) : Model :=
  { m with properties := m.properties ++ added }

@[simp]
theorem Model.name_withLocalNames (m : Model) : m.withLocalNames.name = m.name := rfl

@[simp]
theorem Model.name_extend (m : Model) (added : List Property) : (m.extend added).name = m.name := rfl

@[simp]
theorem Model.extend_nil (m : Model) : m.extend [] = m := by simp [extend]

theorem Model.extend_extend (m : Model) (ps qs : List Property) :
    (m.extend ps).extend qs = m.extend (ps ++ qs) := by simp [extend]

theorem Model.property?_isSome_iff {m : Model} {localName : String} :
    (m.property? localName).isSome = true ↔ localName ∈ m.localNames := by
  simp [property?, localNames]

theorem Model.addProperty_eq (m : Model) (remote localName type : String) :
    m.addProperty remote localName type =
      let p := Property.ofCall remote localName type
      if remote = "" ∧ localName = "" then .error (.invalid (.propertyWithoutIdentifier m.name))
      else if p.localName ∈ m.localNames then .error (.duplicate .property p.localName)
      else if p.typeToken = "" then .error (.invalid (.propertyWithoutType m.name p.localName))
      else .ok (m.extend [p]) := by
  simp only [addProperty, Property.ofCall, extend, property?_isSome_iff, Bool.and_eq_true, String.isEmpty_iff]

theorem Model.addProperty_eq_ok {m m' : Model} {remote localName type : String}
    (h : m.addProperty remote localName type = .ok m') : m' = m.extend [.ofCall remote localName type] := by
  simp only [addProperty_eq] at h
  split_ifs at h
  cases h
  rfl

theorem Schema.addModel_eq (s : Schema) (m : Model) : s.addModel m =
    if m.name ∈ s.names then .error (.duplicate .model m.name)
    else .ok { s with models := s.models ++ [m.withLocalNames] } := by
  rw [addModel]
  by_cases hm : m.name ∈ s.names
  · have hsome : s.position? m.name ≠ none := fun h => position?_eq_none_iff.1 h hm
    rw [if_pos hm, if_pos (Option.isSome_iff_ne_none.2 hsome)]
  · rw [if_neg hm, if_neg]
    rw [position?_eq_none_iff.2 hm]
    exact Bool.false_ne_true

theorem Schema.addProperty_eq_ok {s s' : Schema} {name remote localName type : String}
    (h : s.addProperty name remote localName type = .ok s') :
    ∃ i m, s.position? name = some i ∧ s.models[i]? = some m ∧ m.name = name ∧
      s' = { s with models := s.models.set i (m.extend [.ofCall remote localName type]) } := by
  unfold addProperty at h
  split at h
  · cases h
  · next i hi =>
    obtain ⟨m, hm, hname, -⟩ := getElem?_of_position? hi
    simp only [hm] at h
    split at h
    · cases h
    · next m' hm' =>
      cases h
      exact ⟨i, m, hi, hm, hname, by rw [Model.addProperty_eq_ok hm']⟩

/-! ## Loading -/

namespace Generator

variable {ρ : Type}

theorem changeSchema_of_ok {change : Schema → Except Error Schema} {g : Generator ρ} {schema : Schema}
    (h : change g.schema = .ok schema) : changeSchema change g = (.ok (), { g with schema }) := by
  rw [changeSchema, h]

theorem changeSchema_of_error {change : Schema → Except Error Schema} {g : Generator ρ} {e : Error}
    (h : change g.schema = .error e) : changeSchema change g = (.error e, g) := by
  rw [changeSchema, h]

/-- Adding a model is refused and changes nothing, or its name is new. -/
theorem addModel_cases (m : Model) (g : Generator ρ) :
    (∃ e, addModel m g = (.error e, g)) ∨
      m.name ∉ g.schema.names ∧ addModel m g =
        (.ok (), { g with schema := ⟨g.schema.project, g.schema.models ++ [m.withLocalNames]⟩ }) := by
  have heq := g.schema.addModel_eq m
  by_cases hm : m.name ∈ g.schema.names
  · rw [if_pos hm] at heq
    exact .inl ⟨_, changeSchema_of_error heq⟩
  · rw [if_neg hm] at heq
    exact .inr ⟨hm, changeSchema_of_ok heq⟩

/-- Adding a property is refused and changes nothing, or extends the first model with the name. -/
theorem addProperty_cases (model remote localName type : String) (g : Generator ρ) :
    (∃ e, addProperty model remote localName type g = (.error e, g)) ∨
      ∃ i m, g.schema.position? model = some i ∧ g.schema.models[i]? = some m ∧ m.name = model ∧
        addProperty model remote localName type g = (.ok (), { g with
          schema := { g.schema with
            models := g.schema.models.set i (m.extend [.ofCall remote localName type]) } }) := by
  cases h : g.schema.addProperty model remote localName type with
  | error e => exact .inl ⟨e, changeSchema_of_error h⟩
  | ok schema =>
    obtain ⟨i, m, hi, hm, hname, rfl⟩ := Schema.addProperty_eq_ok h
    exact .inr ⟨i, m, hi, hm, hname, changeSchema_of_ok h⟩

theorem clash?_eq_none {s : Schema} {seen : List String} {ms : List Model} (h : clash? s seen ms = none) :
    (∀ m ∈ ms, m.name ∉ s.names ∧ m.name ∉ seen) ∧ (ms.map (·.name)).Nodup := by
  induction ms generalizing seen with
  | nil => simp
  | cons m ms ih =>
    unfold clash? at h
    split at h
    · cases h
    · next hm =>
      obtain ⟨hfresh, hnodup⟩ := ih h
      simp only [Bool.or_eq_true, not_or, Option.isSome_iff_ne_none, not_not, Schema.position?_eq_none_iff,
        List.contains_iff_mem] at hm
      refine ⟨fun m' hm' => ?_, ?_⟩
      · rcases List.mem_cons.1 hm' with rfl | hm'
        · simpa using hm
        · exact ⟨(hfresh m' hm').1, fun hseen => (hfresh m' hm').2 (List.mem_cons_of_mem m.name hseen)⟩
      · rw [List.map_cons, List.nodup_cons]
        refine ⟨fun hmem => ?_, hnodup⟩
        obtain ⟨m', hm', hname⟩ := List.mem_map.1 hmem
        exact (hfresh m' hm').2 (hname ▸ List.mem_cons_self)

/-- Models with new and different names are all added. -/
theorem addModels_eq_ok {g : Generator ρ} {ms : List Model} (hfresh : ∀ m ∈ ms, m.name ∉ g.schema.names)
    (hnodup : (ms.map (·.name)).Nodup) :
    addModels ms g = (.ok (), { g with
      schema := { g.schema with models := g.schema.models ++ ms.map Model.withLocalNames } }) := by
  induction ms generalizing g with
  | nil => simp [addModels]
  | cons m ms ih =>
    rw [List.map_cons, List.nodup_cons] at hnodup
    obtain ⟨hm, hnodup⟩ := hnodup
    rw [List.forall_mem_cons] at hfresh
    obtain ⟨hnew, hfresh⟩ := hfresh
    have hone : addModel m g = (.ok (), { g with
        schema := { g.schema with models := g.schema.models ++ [m.withLocalNames] } }) :=
      changeSchema_of_ok (by rw [Schema.addModel_eq, if_neg hnew])
    -- the names of the rest are new to the schema with `m`, too
    have hrest : ∀ m' ∈ ms, m'.name ∉ (g.schema.names ++ [m.name]) := by
      intro m' hm' hmem
      rcases List.mem_append.1 hmem with hmem | hmem
      · exact hfresh m' hm' hmem
      · exact hm (List.mem_singleton.1 hmem ▸ List.mem_map_of_mem hm')
    simp only [addModels, hone]
    rw [ih (fun m' hm' => by simpa [Schema.names] using hrest m' hm') hnodup]
    simp

/-- When all names have been looked at, no model is refused. -/
theorem addModels_of_clash? {incoming : Schema} {g : Generator ρ} (h : clash? g.schema [] incoming.models = none) :
    addModels incoming.models (g.takeProject incoming) = (.ok (), { g with
      schema := ⟨(g.takeProject incoming).schema.project,
        g.schema.models ++ incoming.models.map Model.withLocalNames⟩ }) := by
  obtain ⟨hfresh, hnodup⟩ := clash?_eq_none h
  have hmodels : (g.takeProject incoming).schema.models = g.schema.models := by
    unfold takeProject
    split <;> rfl
  rw [addModels_eq_ok (by simpa [Schema.names, hmodels] using fun m hm => (hfresh m hm).1) hnodup, hmodels]
  unfold takeProject
  split <;> rfl

/-- Loading a schema is refused and changes nothing, or adds all its models, which have new and different
names. -/
theorem loadSchema_cases (incoming : Schema) (g : Generator ρ) :
    (∃ e, loadSchema incoming g = (.error e, g)) ∨
      ∃ project, (∀ m ∈ incoming.models, m.name ∉ g.schema.names) ∧ (incoming.models.map (·.name)).Nodup ∧
        loadSchema incoming g = (.ok (), { g with
          schema := ⟨project, g.schema.models ++ incoming.models.map Model.withLocalNames⟩ }) := by
  unfold loadSchema
  cases incoming.validate with
  | error e => exact .inl ⟨e, rfl⟩
  | ok u =>
    cases hclash : clash? g.schema [] incoming.models with
    | some name => exact .inl ⟨_, rfl⟩
    | none =>
      obtain ⟨hfresh, hnodup⟩ := clash?_eq_none hclash
      exact .inr ⟨_, fun m hm => (hfresh m hm).1, hnodup, addModels_of_clash? hclash⟩

end Generator

end Stencil
