import Stencil.Proofs.Generator.History
import Stencil.Proofs.Schema.Acceptance
import Stencil.Renderer.Echo
/-!
# Loading is adding one by one

A schema that is loaded is looked at as a whole before its first model is added: it has to be valid, and its models
have to be `Fresh`. Adding the same models one after another is refused nowhere exactly if they are
(`unrefused_addModels_iff`), so the look ahead finds neither more nor less than the additions would
(`loadSchema_iff_addModels`).
-/

namespace Stencil.Generator

variable {ρ : Type}

/-! ## Names that are free -/

/-- The names of the models are not taken, and no two of them are the same. -/
def Fresh (taken : List String) (models : List Model) : Prop :=
  (∀ m ∈ models, m.name ∉ taken) ∧ (models.map (·.name)).Nodup

/-- The models fall apart at the first one whose name is taken, or is that of a model before it. -/
def FirstTaken (taken : List String) (models : List Model) (m : Model) : Prop :=
  ∃ before after, models = before ++ m :: after ∧ Fresh taken before ∧ m.name ∈ taken ++ before.map (·.name)

instance (taken : List String) (models : List Model) : Decidable (Fresh taken models) :=
  inferInstanceAs (Decidable ((∀ m ∈ models, m.name ∉ taken) ∧ (models.map (·.name)).Nodup))

theorem fresh_nil (taken : List String) : Fresh taken [] := ⟨nofun, List.nodup_nil⟩

/-- The name of a model is taken for those behind it. -/
theorem fresh_cons {taken : List String} {m : Model} {rest : List Model} :
    Fresh taken (m :: rest) ↔ m.name ∉ taken ∧ Fresh (taken ++ [m.name]) rest := by
  have hrest : (∀ n ∈ rest, n.name ∉ taken ++ [m.name]) ↔
      (∀ n ∈ rest, n.name ∉ taken) ∧ m.name ∉ rest.map (·.name) := by
    simp [forall_and]
  rw [Fresh, Fresh, hrest, List.forall_mem_cons, List.map_cons, List.nodup_cons]
  tauto

theorem FirstTaken.cons {taken : List String} {m n : Model} {rest : List Model} (hm : m.name ∉ taken)
    (h : FirstTaken (taken ++ [m.name]) rest n) : FirstTaken taken (m :: rest) n := by
  obtain ⟨before, after, rfl, hfresh, hn⟩ := h
  exact ⟨m :: before, after, rfl, fresh_cons.2 ⟨hm, hfresh⟩, by simpa using hn⟩

theorem FirstTaken.not_fresh {taken : List String} {models : List Model} {m : Model}
    (h : FirstTaken taken models m) : ¬ Fresh taken models := by
  obtain ⟨before, after, rfl, -, hm⟩ := h
  rintro ⟨hnew, hnodup⟩
  rw [List.map_append, List.map_cons, List.nodup_middle, List.nodup_cons] at hnodup
  rcases List.mem_append.1 hm with hm | hm
  · exact hnew m (by simp) hm
  · exact hnodup.1 (List.mem_append_left _ hm)

/-- A clash is with a name that is taken, and the first one. -/
theorem clash?_eq_some {s : Schema} {taken seen : List String} {models : List Model} {name : String}
    (htaken : ∀ n, n ∈ taken ↔ n ∈ s.names ∨ n ∈ seen) (h : clash? s seen models = some name) :
    ∃ m, m.name = name ∧ FirstTaken taken models m := by
  induction models generalizing taken seen with
  | nil => cases h
  | cons m rest ih =>
    have hm : ((s.position? m.name).isSome || seen.contains m.name) = true ↔ m.name ∈ taken := by
      rw [htaken, Bool.or_eq_true, Option.isSome_iff_ne_none, Ne, Schema.position?_eq_none_iff, not_not,
        List.contains_iff_mem]
    unfold clash? at h
    split at h
    · next hclash =>
      cases h
      exact ⟨m, rfl, [], rest, rfl, fresh_nil taken, by simpa using hm.1 hclash⟩
    · next hclash =>
      have htaken' : ∀ n, n ∈ taken ++ [m.name] ↔ n ∈ s.names ∨ n ∈ m.name :: seen := by
        intro n
        simp [htaken, or_assoc, or_comm]
      obtain ⟨n, hn, hfirst⟩ := ih htaken' h
      exact ⟨n, hn, hfirst.cons (mt hm.2 hclash)⟩

/-! ## Adding one after another -/

theorem addModel_of_mem {m : Model} {g : Generator ρ} (hm : m.name ∈ g.schema.names) :
    addModel m g = (.error (.duplicate .model m.name), g) :=
  changeSchema_of_error (by rw [Schema.addModel_eq, if_pos hm])

theorem addModel_of_not_mem {m : Model} {g : Generator ρ} (hm : m.name ∉ g.schema.names) :
    addModel m g =
      (.ok (), { g with schema := { g.schema with models := g.schema.models ++ [m.withLocalNames] } }) :=
  changeSchema_of_ok (by rw [Schema.addModel_eq, if_neg hm])

section Steps

variable [Renderer ρ]

/-- None of the steps is refused, each of them taken after those before it. -/
def Unrefused : List (Step ρ) → Generator ρ → Prop
  | [], _ => True
  | s :: steps, g => (s.perform g).1 = .ok () ∧ Unrefused steps (s.perform g).2

/-- Models can be added exactly if they are fresh. -/
theorem unrefused_addModels_iff (models : List Model) (g : Generator ρ) :
    Unrefused (models.map Step.addModel) g ↔ Fresh g.schema.names models := by
  induction models generalizing g with
  | nil => exact iff_of_true trivial (fresh_nil _)
  | cons m rest ih =>
    rw [List.map_cons, Unrefused, fresh_cons, ih]
    by_cases hm : m.name ∈ g.schema.names
    · simp [Step.perform, addModel_of_mem hm, hm]
    · have hnames : (Step.perform (.addModel m) g).2.schema.names = g.schema.names ++ [m.name] := by
        simp [Step.perform, addModel_of_not_mem hm, Schema.names]
      rw [hnames]
      simp [Step.perform, addModel_of_not_mem hm, hm]

/-- Where no model is refused, adding them in one go is adding them one by one. -/
theorem performAll_addModels {models : List Model} {g g' : Generator ρ} (h : addModels models g = (.ok (), g')) :
    performAll (models.map Step.addModel) g = g' := by
  induction models generalizing g with
  | nil =>
    cases h
    rfl
  | cons m rest ih =>
    rcases hm : addModel m g with ⟨e | u, g₁⟩
    · simp [addModels, hm] at h
    · have hrest : addModels rest g₁ = (.ok (), g') := by simpa [addModels, hm] using h
      rw [← ih hrest]
      simp [performAll, Step.perform, hm]

end Steps

/-! ## Loading -/

/-- A valid schema is loaded if its models are fresh, and refused for the first one whose name is taken. -/
theorem loadSchema_of_valid {incoming : Schema} (h : incoming.validate = .ok ()) (g : Generator ρ) :
    (Fresh g.schema.names incoming.models ∧ loadSchema incoming g = (.ok (), { g with schema :=
        ⟨if incoming.project = "" then g.schema.project else incoming.project,
          g.schema.models ++ incoming.models.map Model.withLocalNames⟩ })) ∨
      ∃ m, FirstTaken g.schema.names incoming.models m ∧
        loadSchema incoming g = (.error (.duplicate .model m.name), g) := by
  unfold loadSchema
  rw [h]
  cases hclash : clash? g.schema [] incoming.models with
  | some name =>
    have hnames : ∀ n, n ∈ g.schema.names ↔ n ∈ g.schema.names ∨ n ∈ [] := by simp
    obtain ⟨m, rfl, hfirst⟩ := clash?_eq_some hnames hclash
    exact .inr ⟨m, hfirst, rfl⟩
  | none =>
    obtain ⟨hnew, hnodup⟩ := clash?_eq_none hclash
    have hnew' : ∀ m ∈ incoming.models, m.name ∉ g.schema.names := fun m hm => (hnew m hm).1
    have hproject : g.takeProject incoming = { g with schema := { g.schema with
        project := if incoming.project = "" then g.schema.project else incoming.project } } := by
      simp only [takeProject, String.isEmpty_iff]
      split <;> rfl
    refine .inl ⟨⟨hnew', hnodup⟩, ?_⟩
    simp only [hproject]
    refine addModels_eq_ok ?_ hnodup
    exact hnew'

variable [Renderer ρ]

/-- A schema can be loaded exactly if it is valid and its models could be added one after another. Then the models are
those that this leads to, the new ones behind the old ones with their local identifiers filled in, and the project is
the incoming one unless that is empty. Otherwise nothing changes, and the error is that of the validation, or else
it names the first model whose name is taken in the schema or by an incoming model before it. -/
theorem loadSchema_iff_addModels (incoming : Schema) (g : Generator ρ) :
    let steps := incoming.models.map Step.addModel
    ((loadSchema incoming g).1 = .ok () ↔ incoming.validate = .ok () ∧ Unrefused steps g) ∧
    ((loadSchema incoming g).1 = .ok () →
      (performAll steps g).schema.models = g.schema.models ++ incoming.models.map (fun m => { m with
        properties := m.properties.map fun p =>
          { p with localName := if p.localName = "" then p.remoteName else p.localName } }) ∧
      (loadSchema incoming g).2 = { g with schema :=
        ⟨if incoming.project = "" then g.schema.project else incoming.project,
          (performAll steps g).schema.models⟩ }) ∧
    (∀ e, incoming.validate = .error e → loadSchema incoming g = (.error e, g)) ∧
    (incoming.validate = .ok () → ¬ Unrefused steps g → ∃ m, FirstTaken g.schema.names incoming.models m ∧
      loadSchema incoming g = (.error (.duplicate .model m.name), g)) := by
  intro steps
  have hne : ∀ e : Error, (.error e : Except Error Unit) ≠ .ok () := by simp
  cases hvalid : incoming.validate with
  | error e =>
    have hrefused : loadSchema incoming g = (.error e, g) := by rw [loadSchema, hvalid]
    rw [hrefused]
    refine ⟨iff_of_false (hne e) fun h => hne e h.1, fun h => absurd h (hne e), ?_, fun h => absurd h (hne e)⟩
    rintro e' h
    cases h
    rfl
  | ok u =>
    rcases loadSchema_of_valid hvalid g with ⟨hfresh, hloaded⟩ | ⟨m, hfirst, hrefused⟩
    · have hall : Unrefused steps g := (unrefused_addModels_iff _ g).2 hfresh
      have hmodels : (performAll steps g).schema.models =
          g.schema.models ++ incoming.models.map Model.withLocalNames := by
        rw [performAll_addModels (addModels_eq_ok hfresh.1 hfresh.2)]
      have hfilled : Model.withLocalNames = fun m => { m with properties := m.properties.map fun p =>
          { p with localName := if p.localName = "" then p.remoteName else p.localName } } := by
        funext m
        rw [Model.withLocalNames, List.map_congr_left fun p _ => p.withLocalName_eq]
      rw [hloaded, hmodels, hfilled]
      exact ⟨iff_of_true rfl ⟨rfl, hall⟩, fun _ => ⟨rfl, rfl⟩, fun e h => absurd h.symm (hne e),
        fun _ hnot => absurd hall hnot⟩
    · have hnot : ¬ Unrefused steps g := mt (unrefused_addModels_iff _ g).1 hfirst.not_fresh
      rw [hrefused]
      exact ⟨iff_of_false (hne _) fun h => hnot h.2, fun h => absurd h (hne _), fun e h => absurd h.symm (hne e),
        fun _ _ => ⟨m, hfirst, rfl⟩⟩

/-- A schema without a project goes behind a model that is there. When it comes again behind a new model and with a
project, neither of these is taken. -/
theorem loadSchema_iff_addModels_again :
    let before : Generator EchoRenderer := performAll [.addModelNamed "Order"] (start {} ⟨"echo"⟩)
    let incoming : Schema := ⟨"", [⟨"Item", none, [⟨"id", "", "", false⟩]⟩, ⟨"User", some "Order", []⟩]⟩
    let again : Schema := ⟨"Shop", ⟨"New", none, []⟩ :: incoming.models⟩
    let after := (loadSchema incoming before).2
    (loadSchema incoming before).1 = .ok () ∧
      after.schema.models = (performAll (incoming.models.map .addModel) before).schema.models ∧
      ∃ m, FirstTaken after.schema.names again.models m ∧
        loadSchema again after = (.error (.duplicate .model m.name), after) := by
  intro before incoming again after
  obtain ⟨hiff, hloaded, -⟩ := loadSchema_iff_addModels incoming before
  obtain ⟨-, -, -, hrefused⟩ := loadSchema_iff_addModels again after
  have hok : (loadSchema incoming before).1 = .ok () :=
    hiff.2 ⟨by decide, (unrefused_addModels_iff _ _).2 (by decide)⟩
  refine ⟨hok, ?_, hrefused (by decide) (mt (unrefused_addModels_iff _ _).1 (by decide))⟩
  exact congrArg (·.schema.models) (hloaded hok).2

end Stencil.Generator
