import Mathlib.Data.List.Forall2
import Stencil.Proofs.Generator.History
import Stencil.Renderer.Echo
/-!
# Local identifiers within a model

A property that is added to a model needs a local identifier of its own, and a document is refused if two properties
of one of its models have the same one, also if it is only filled in from the remote identifier. A model that is handed
over whole is not looked into. So the local identifiers of all models are unique exactly if they were in every model
that was taken in whole (`unambiguous_iff_admitted`): no other step makes a difference
(`unambiguous_perform_iff`).
-/

namespace Stencil

/-- No two properties have the same local identifier. -/
def Model.Unambiguous (m : Model) : Prop := m.localNames.Nodup

instance (m : Model) : Decidable m.Unambiguous := inferInstanceAs (Decidable m.localNames.Nodup)

/-! ## Adding a property -/

namespace Model

theorem unambiguous_extend {m : Model} {p : Property} :
    (m.extend [p]).Unambiguous ↔ m.Unambiguous ∧ p.localName ∉ m.localNames := by
  rw [Unambiguous, localNames, extend, List.map_append, List.map_singleton, List.nodup_append_comm,
    List.singleton_append, List.nodup_cons, and_comm]
  rfl

theorem fresh_of_addProperty {m m' : Model} {remote localName type : String}
    (h : m.addProperty remote localName type = .ok m') :
    (Property.ofCall remote localName type).localName ∉ m.localNames := by
  intro hmem
  rw [addProperty_eq] at h
  simp only [hmem, if_true] at h
  split at h <;> cases h

end Model

/-! ## Documents -/

theorem firstRepeated?_eq_none_iff {seen names : List String} :
    firstRepeated? seen names = none ↔ names.Nodup ∧ ∀ s ∈ names, s ∉ seen := by
  induction names generalizing seen with
  | nil => simp [firstRepeated?]
  | cons s rest ih =>
    by_cases hs : s ∈ seen
    · simp [firstRepeated?, hs]
    · simp only [firstRepeated?, List.contains_iff_mem, hs, if_false, ih, List.nodup_cons]
      -- a name behind `s` must not be `s` again, whether that is said of `s` or of the name
      constructor
      · rintro ⟨hnodup, hrest⟩
        refine ⟨⟨fun hmem => hrest s hmem List.mem_cons_self, hnodup⟩, List.forall_mem_cons.2 ⟨hs, ?_⟩⟩
        exact fun name hname hseen => hrest name hname (List.mem_cons_of_mem s hseen)
      · rintro ⟨⟨hnew, hnodup⟩, hseen⟩
        refine ⟨hnodup, fun name hname hmem => ?_⟩
        rcases List.mem_cons.1 hmem with rfl | hmem
        · exact hnew hname
        · exact hseen name (List.mem_cons_of_mem s hname) hmem

namespace Property

theorem localName_withLocalName (p : Property) :
    p.withLocalName.localName = if p.localName = "" then p.remoteName else p.localName := by
  unfold withLocalName
  split <;> simp_all

theorem withLocalName_withLocalName (p : Property) : p.withLocalName.withLocalName = p.withLocalName := by
  by_cases hlocal : p.localName = ""
  · by_cases hremote : p.remoteName = ""
    · simp [withLocalName, hlocal, hremote]
    · simp [withLocalName, hlocal]
  · simp [withLocalName, hlocal]

/-- Taking a mark off a type leaves the identifiers alone. -/
theorem localName_withoutMarker (p : Property) :
    p.withoutMarker.withLocalName.localName = p.withLocalName.localName := by
  unfold withoutMarker
  split
  · rw [localName_withLocalName, localName_withLocalName]
  · rfl

end Property

/-- A model of a document is accepted if its local identifiers, filled in, are unique, and it keeps them. -/
theorem Model.normalize_eq_ok {m m' : Model} (h : m.normalize = .ok m') :
    m.withLocalNames.Unambiguous ∧ m'.withLocalNames.localNames = m.withLocalNames.localNames := by
  unfold normalize at h
  simp only at h
  split at h
  · cases h
  · next hnone =>
    cases h
    refine ⟨(firstRepeated?_eq_none_iff.1 hnone).1, ?_⟩
    simp [localNames, withLocalNames, Property.localName_withoutMarker, Property.withLocalName_withLocalName,
      Function.comp_def]

theorem normalizeModels_eq_ok {seen : List String} {models models' : List Model}
    (h : normalizeModels seen models = .ok models') :
    List.Forall₂ (fun m m' => m.normalize = .ok m') models models' := by
  induction models generalizing seen models' with
  | nil =>
    cases h
    exact .nil
  | cons m rest ih =>
    unfold normalizeModels at h
    split at h
    · cases h
    · split at h
      · cases h
      · next m' hm =>
        cases hrest : normalizeModels (m'.name :: seen) rest with
        | error e =>
          rw [hrest] at h
          cases h
        | ok rest' =>
          rw [hrest] at h
          cases h
          exact .cons hm (ih hrest)

namespace Schema

theorem accept_eq_ok {s s' : Schema} (h : s.accept = .ok s') :
    List.Forall₂ (fun m m' => m.normalize = .ok m') s.models s'.models := by
  unfold accept normalize at h
  split at h
  · cases h
  · cases hmodels : normalizeModels [] s.models with
    | error e =>
      rw [hmodels] at h
      cases h
    | ok models =>
      rw [hmodels] at h
      cases h
      exact normalizeModels_eq_ok hmodels

theorem load_eq_ok {document : String} {s : Schema} (h : load document = .ok s) :
    ∃ incoming, Json.decode Schema.read document = .ok incoming ∧ incoming.accept = .ok s := by
  unfold load at h
  split at h
  · cases h
  · next incoming hincoming => exact ⟨incoming, hincoming, h⟩

/-- The models of a document have unique local identifiers, as they are written and as they are accepted. -/
theorem unambiguous_of_accept {s s' : Schema} (h : s.accept = .ok s') :
    (∀ m ∈ s.models, m.withLocalNames.Unambiguous) ∧ ∀ m ∈ s'.models, m.withLocalNames.Unambiguous := by
  have hmodels := (accept_eq_ok h).imp fun m m' hm => Model.normalize_eq_ok hm
  refine ⟨((List.forall₂_and_left _ _).1 hmodels).1,
    ((List.forall₂_and_left _ _).1 (hmodels.flip.imp fun m' m hm => ⟨?_, hm⟩)).1⟩
  rw [Model.Unambiguous, hm.2]
  exact hm.1

theorem unambiguous_of_load {document : String} {s : Schema} (h : load document = .ok s) :
    ∀ m ∈ s.models, m.withLocalNames.Unambiguous := by
  obtain ⟨incoming, -, haccept⟩ := load_eq_ok h
  exact (unambiguous_of_accept haccept).2

end Schema

/-- Whether all elements have a property is not changed by putting one in the place of another if both have it or
neither. -/
theorem forall_mem_set_iff {α : Type} {p : α → Prop} {xs : List α} {i : Nat} {x x' : α} (h : xs[i]? = some x)
    (hp : p x' ↔ p x) : (∀ y ∈ xs.set i x', p y) ↔ ∀ y ∈ xs, p y := by
  induction xs generalizing i with
  | nil => simp
  | cons y ys ih =>
    cases i with
    | zero =>
      obtain rfl : y = x := by simpa using h
      simp [hp]
    | succ i => simp [ih (by simpa using h)]

namespace Generator

variable {ρ : Type}

/-! ## One step -/

/-- The models that a step hands over as they are. -/
def Step.models : Step ρ → List Model
  | addModel m => [m]
  | loadSchema incoming => incoming.models
  | _ => []

/-- The models that a step has handed over, if it was not refused. -/
def Step.admitted (s : Step ρ) (answer : Except Error Unit) : List Model :=
  match answer with
  | .ok () => s.models
  | .error _ => []

/-- All models of the generator have unique local identifiers. -/
def Unambiguous (g : Generator ρ) : Prop := ∀ m ∈ g.schema.models, m.Unambiguous

theorem unambiguous_addModel_iff (m : Model) (g : Generator ρ) :
    (addModel m g).2.Unambiguous ↔ g.Unambiguous ∧ ((addModel m g).1 = .ok () → m.withLocalNames.Unambiguous) := by
  rcases addModel_cases m g with ⟨e, h⟩ | ⟨-, h⟩
  · simp [h]
  · simp [h, Unambiguous, or_imp, forall_and]

/-- A property goes to the first model with the name, and is refused if that refuses it. -/
theorem addProperty_of_model? {g : Generator ρ} {m : Model} {model : String} (hm : g.schema.model? model = some m)
    (remote localName type : String) :
    (∃ e, m.addProperty remote localName type = .error e ∧
        addProperty model remote localName type g = (.error e, g)) ∨
      ∃ i, g.schema.models[i]? = some m ∧ m.addProperty remote localName type =
          .ok (m.extend [.ofCall remote localName type]) ∧
        addProperty model remote localName type g = (.ok (), { g with
          schema := { g.schema with
            models := g.schema.models.set i (m.extend [.ofCall remote localName type]) } }) := by
  cases hi : g.schema.position? model with
  | none =>
    rw [Schema.position?_eq_none_iff] at hi
    exact absurd (List.mem_map.2 ⟨m, List.mem_of_find?_eq_some hm, by simpa using List.find?_some hm⟩) hi
  | some i =>
    obtain ⟨m', hm', -, hmodel⟩ := Schema.getElem?_of_position? hi
    obtain rfl : m = m' := Option.some.inj (hm.symm.trans hmodel)
    cases hp : m.addProperty remote localName type with
    | error e => exact .inl ⟨e, rfl, changeSchema_of_error (by rw [Schema.addProperty, hi]; simp only [hm', hp])⟩
    | ok extended =>
      obtain rfl := Model.addProperty_eq_ok hp
      exact .inr ⟨i, hm', rfl, changeSchema_of_ok (by rw [Schema.addProperty, hi]; simp only [hm', hp])⟩

theorem unambiguous_addProperty_iff (model remote localName type : String) (g : Generator ρ) :
    (addProperty model remote localName type g).2.Unambiguous ↔ g.Unambiguous := by
  cases hm : g.schema.model? model with
  | none =>
    rcases addProperty_cases model remote localName type g with ⟨e, h⟩ | ⟨i, m, hi, -⟩
    · rw [h]
    · obtain ⟨m', -, -, hmodel⟩ := Schema.getElem?_of_position? hi
      cases hm.symm.trans hmodel
  | some m =>
    rcases addProperty_of_model? hm remote localName type with ⟨e, -, h⟩ | ⟨i, hi, hp, h⟩
    · rw [h]
    · rw [h]
      refine forall_mem_set_iff hi ?_
      rw [Model.unambiguous_extend, and_iff_left (Model.fresh_of_addProperty hp)]

theorem unambiguous_loadSchema_iff (incoming : Schema) (g : Generator ρ) :
    (loadSchema incoming g).2.Unambiguous ↔ g.Unambiguous ∧
      ((loadSchema incoming g).1 = .ok () → ∀ m ∈ incoming.models, m.withLocalNames.Unambiguous) := by
  rcases loadSchema_cases incoming g with ⟨e, h⟩ | ⟨project, -, -, h⟩
  · simp [h]
  · simp [h, Unambiguous, or_imp, forall_and]

/-- A schema that has been read is refused for its names if at all, and does no harm. -/
theorem unambiguous_loadRead_iff {read : Except Error Schema} {g g' : Generator ρ} {answer : Except Error Unit}
    (h : (answer, g') = match read with
      | .error e => (.error e, g)
      | .ok incoming => loadSchema incoming g)
    (hread : ∀ incoming, read = .ok incoming → ∀ m ∈ incoming.models, m.withLocalNames.Unambiguous) :
    g'.Unambiguous ↔ g.Unambiguous := by
  cases read with
  | error e =>
    cases h
    rfl
  | ok incoming =>
    have hg' : g' = (loadSchema incoming g).2 := congrArg Prod.snd h
    rw [hg', unambiguous_loadSchema_iff, and_iff_left fun _ => hread incoming rfl]

theorem schema_changeRegistry (change : Registry → Except Error Registry) (g : Generator ρ) :
    (changeRegistry change g).2.schema = g.schema := by
  unfold changeRegistry
  split <;> rfl

theorem schema_addTemplateWith (fileName : String) (contents : Bytes) (version directory : String) (renderer : Nat)
    (g : Generator ρ) : (addTemplateWith fileName contents version directory renderer g).2.schema = g.schema := by
  unfold addTemplateWith
  split
  · exact schema_changeRegistry _ g
  · rfl

theorem unambiguous_congr {g g' : Generator ρ} (h : g'.schema = g.schema) : g'.Unambiguous ↔ g.Unambiguous := by
  rw [Unambiguous, h, Unambiguous]

variable [Renderer ρ]

theorem unambiguous_perform_of_models_nil {s : Step ρ} (hs : s.models = []) (g : Generator ρ) :
    (s.perform g).2.Unambiguous ↔ g.Unambiguous := by
  cases s with
  | addModel m => cases hs
  | addModelNamed name =>
    simp only [Step.perform, Generator.addModelNamed]
    split
    · rfl
    · rw [unambiguous_addModel_iff]
      exact and_iff_left fun _ => List.nodup_nil
  | addProperty model remote localName type => exact unambiguous_addProperty_iff model remote localName type g
  | loadSchema incoming =>
    have hmodels : incoming.models = [] := hs
    simp only [Step.perform, unambiguous_loadSchema_iff, hmodels]
    exact and_iff_left (by simp)
  | loadDocument document => exact unambiguous_loadRead_iff rfl fun _ h => Schema.unambiguous_of_load h
  | loadSchemaFile tree current path =>
    refine unambiguous_loadRead_iff rfl fun _ h => ?_
    unfold readSchema at h
    split at h
    · cases h
    · exact Schema.unambiguous_of_load h
  | addTemplate | addTemplateWith => exact unambiguous_congr (schema_addTemplateWith _ _ _ _ _ g)
  | addTemplateFile | addTemplateDirectory => exact unambiguous_congr (schema_changeRegistry _ g)
  | addMapping sourceNames modelNames =>
    refine unambiguous_congr ?_
    simp only [Step.perform, Generator.addMapping]
    split <;> rfl
  | addFeature | removeFeature | registerRenderer | process => exact Iff.rfl

/-- Only a model that is handed over whole can bring a local identifier twice. -/
theorem unambiguous_perform_iff (s : Step ρ) (g : Generator ρ) :
    (s.perform g).2.Unambiguous ↔
      g.Unambiguous ∧ ∀ m ∈ s.admitted (s.perform g).1, m.withLocalNames.Unambiguous := by
  by_cases hs : s.models = []
  · have hnone : s.admitted (s.perform g).1 = [] := by
      unfold Step.admitted
      split
      · exact hs
      · rfl
    rw [hnone, unambiguous_perform_of_models_nil hs g]
    simp
  · have hadmitted : (∀ m ∈ s.admitted (s.perform g).1, m.withLocalNames.Unambiguous) ↔
        ((s.perform g).1 = .ok () → ∀ m ∈ s.models, m.withLocalNames.Unambiguous) := by
      cases (s.perform g).1 <;> simp [Step.admitted]
    rw [hadmitted]
    cases s with
    | addModel m =>
      rw [Step.models, List.forall_mem_singleton]
      exact unambiguous_addModel_iff m g
    | loadSchema incoming => exact unambiguous_loadSchema_iff incoming g
    | _ => exact absurd rfl hs

/-! ## Many steps -/

/-- The models that are handed over by those of the steps that are not refused. -/
def admitted : List (Step ρ) → Generator ρ → List Model
  | [], _ => []
  | s :: steps, g => s.admitted (s.perform g).1 ++ admitted steps (s.perform g).2

theorem unambiguous_performAll_iff (steps : List (Step ρ)) (g : Generator ρ) :
    (performAll steps g).Unambiguous ↔
      g.Unambiguous ∧ ∀ m ∈ admitted steps g, m.withLocalNames.Unambiguous := by
  induction steps generalizing g with
  | nil => simp [performAll, admitted]
  | cons s steps ih =>
    have hrest := ih (s.perform g).2
    rw [unambiguous_perform_iff, and_assoc, ← List.forall_mem_append] at hrest
    exact hrest

/-- The local identifiers of all models are unique exactly if those of every model that was taken in whole were, the
ones filled in included. A property is refused for a local identifier that its model has, and a document for one that
occurs twice in a model; a whole model is taken if its name is new, whatever its properties. -/
theorem unambiguous_iff_admitted (config : Config) (r : ρ) (steps : List (Step ρ)) :
    let g := performAll steps (start config r)
    ((∀ m ∈ g.schema.models, m.Unambiguous) ↔
      ∀ m ∈ admitted steps (start config r), m.withLocalNames.Unambiguous) ∧
    (∀ model m remote localName type, g.schema.model? model = some m → ¬ (remote = "" ∧ localName = "") →
      (Property.ofCall remote localName type).localName ∈ m.localNames →
      addProperty model remote localName type g =
        (.error (.duplicate .property (Property.ofCall remote localName type).localName), g)) ∧
    (∀ document incoming, Json.decode Schema.read document = .ok incoming →
      (∃ m ∈ incoming.models, ¬ m.withLocalNames.Unambiguous) →
      (∃ e, loadDocument document g = (.error e, g)) ∧
        ∀ tree current path, (tree.read? current path).bind Bytes.toText? = some document →
          ∃ e, loadSchemaFile tree current path g = (.error e, g)) ∧
    ∀ m, (addModel m g).1 = .ok () ↔ m.name ∉ g.schema.names := by
  intro g
  refine ⟨?_, ?_, ?_, ?_⟩
  · have hstart : (start config r).Unambiguous := fun m hm => nomatch hm
    exact (unambiguous_performAll_iff steps _).trans (and_iff_right hstart)
  · intro model m remote localName type hm hnamed htaken
    rcases addProperty_of_model? hm remote localName type with ⟨e, he, h⟩ | ⟨i, -, hp, -⟩
    · rw [Model.addProperty_eq] at he
      simp only [hnamed, htaken, if_false, if_true] at he
      cases he
      exact h
    · exact absurd htaken (Model.fresh_of_addProperty hp)
  · intro document incoming hdecode ⟨m, hm, htwice⟩
    obtain ⟨e, he⟩ : ∃ e, Schema.load document = .error e := by
      cases hload : Schema.load document with
      | error e => exact ⟨e, rfl⟩
      | ok s =>
        obtain ⟨incoming', hdecode', haccept⟩ := Schema.load_eq_ok hload
        obtain rfl : incoming = incoming' := Except.ok.inj (hdecode.symm.trans hdecode')
        exact absurd ((Schema.unambiguous_of_accept haccept).1 m hm) htwice
    refine ⟨⟨e, by simp only [loadDocument, he]⟩, fun tree current path hread => ⟨e, ?_⟩⟩
    simp only [loadSchemaFile, readSchema, hread, he]
  · intro m
    have heq := g.schema.addModel_eq m
    split at heq
    · next hm => simp [addModel, changeSchema, heq, hm]
    · next hm => simp [addModel, changeSchema, heq, hm]

/-- A model with one local identifier twice, once filled in, is taken whole and refused in a document, which has its
records as arrays here. The identifier cannot be added once more. -/
theorem unambiguous_iff_admitted_twice :
    let order : Model := { name := "Order", properties := [⟨"id", "", "", false⟩, ⟨"order_id", "id", "", false⟩] }
    let document := "[\"\",[[\"Order\",null,[[\"id\"],[\"order_id\",\"id\"]]]]]"
    let before : Generator EchoRenderer := start {} ⟨"echo"⟩
    let g := performAll [.addModel order] before
    ((Step.addModel order).perform before).1 = .ok () ∧ ¬ (∀ m ∈ g.schema.models, m.Unambiguous) ∧
      (addProperty "Order" "id" "" "int" g).1 = .error (.duplicate .property "id") ∧
      ∃ e, loadDocument document before = (.error e, before) := by
  intro order document before g
  obtain ⟨hiff, hproperty, -⟩ := unambiguous_iff_admitted {} (EchoRenderer.mk "echo") [.addModel order]
  obtain ⟨-, -, hdocument, -⟩ := unambiguous_iff_admitted {} (EchoRenderer.mk "echo") []
  have htwice : ¬ ∀ m ∈ admitted [.addModel order] before, m.withLocalNames.Unambiguous := by decide
  have hread : Json.decode Schema.read document = .ok ⟨"", [order]⟩ := by decide +kernel
  refine ⟨by decide, fun h => htwice (hiff.1 h), ?_, (hdocument document _ hread (by decide)).1⟩
  rw [hproperty "Order" order.withLocalNames "id" "" "int" (by decide) (by decide) (by decide)]
  rfl

end Generator

end Stencil
