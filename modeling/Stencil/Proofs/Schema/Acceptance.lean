import Stencil.Proofs.Schema.Documents
import Stencil.Proofs.Schema.Identifiers
/-!
# Which schema values are accepted

A schema value is accepted if nothing is missing in it and no identifier clashes with an earlier one: the names of
models are one scope, and the local identifiers of each model are one. What is missing anywhere counts before any
clash, and of the clashes the first one in the order of the document (`load_of_decode_eq`). What is accepted is put into
normal form model by model and property by property, and nothing else is changed.
-/

namespace Stencil

/-! ## Marks of type tokens -/

/-- The token has a mark at its beginning or at its end. -/
def Marked (token : String) : Prop := ∃ bare, token = "[]" ++ bare ∨ token = bare ++ "[]"

/-- What a token is without one mark, the one at its beginning if there is one, and whether it had any. -/
inductive Unmarks : String → String → Bool → Prop
  | leading (bare : String) : Unmarks ("[]" ++ bare) bare true
  | trailing (bare : String) (h : ∀ t, bare ++ "[]" ≠ "[]" ++ t) : Unmarks (bare ++ "[]") bare true
  | none (token : String) (h : ¬ Marked token) : Unmarks token token false

theorem isPrefixOf?_setMarker {token : String} {bare : List Char} :
    setMarker.isPrefixOf? token.toList = some bare ↔ token = "[]" ++ String.ofList bare := by
  have hmarker : String.ofList setMarker = "[]" := by decide
  rw [List.isPrefixOf?_eq_some_iff_append_eq, ← hmarker, ← String.ofList_append, ← String.toList_inj,
    String.toList_ofList, eq_comm]

theorem isSuffixOf?_setMarker {token : String} {bare : List Char} :
    setMarker.isSuffixOf? token.toList = some bare ↔ token = String.ofList bare ++ "[]" := by
  have hmarker : String.ofList setMarker = "[]" := by decide
  rw [List.isSuffixOf?_eq_some_iff_append_eq, ← hmarker, ← String.ofList_append, ← String.toList_inj,
    String.toList_ofList, eq_comm]

theorem unmarks_splitSetMarker (token : String) :
    Unmarks token (splitSetMarker token).1 (splitSetMarker token).2 := by
  unfold splitSetMarker
  cases hleading : setMarker.isPrefixOf? token.toList with
  | some bare =>
    have hunmarks := Unmarks.leading (String.ofList bare)
    rwa [← isPrefixOf?_setMarker.1 hleading] at hunmarks
  | none =>
    have hnone (t : String) : token ≠ "[]" ++ t := by
      intro htoken
      rw [isPrefixOf?_setMarker.2 (htoken.trans (by rw [String.ofList_toList]))] at hleading
      cases hleading
    cases htrailing : setMarker.isSuffixOf? token.toList with
    | some bare =>
      have htoken := isSuffixOf?_setMarker.1 htrailing
      have hunmarks := Unmarks.trailing (String.ofList bare) (htoken ▸ hnone)
      rwa [← htoken] at hunmarks
    | none =>
      refine .none token ?_
      rintro ⟨bare, htoken | htoken⟩
      · exact hnone bare htoken
      · rw [isSuffixOf?_setMarker.2 (htoken.trans (by rw [String.ofList_toList]))] at htrailing
        cases htrailing

theorem Unmarks.of_false {token bare : String} (h : Unmarks token bare false) : bare = token ∧ ¬ Marked token := by
  cases h with
  | none _ h => exact ⟨rfl, h⟩

theorem Property.withLocalName_eq (p : Property) :
    p.withLocalName = { p with localName := if p.localName = "" then p.remoteName else p.localName } := by
  simp only [withLocalName, String.isEmpty_iff]
  split <;> rfl

/-- The token that is left is kept also if there was no mark. -/
theorem Property.withoutMarker_eq (p : Property) : p.withoutMarker =
    { p with typeToken := (splitSetMarker p.typeToken).1, isSet := p.isSet || (splitSetMarker p.typeToken).2 } := by
  have hunmarks := unmarks_splitSetMarker p.typeToken
  unfold withoutMarker
  cases hsplit : splitSetMarker p.typeToken with
  | mk bare marked =>
    rw [hsplit] at hunmarks
    cases marked with
    | true => simp
    | false =>
      obtain ⟨hbare, -⟩ := hunmarks.of_false
      simp only at hbare
      simp [hbare]

/-! ## Normal forms -/

/-- The second property is the first one in normal form. -/
structure Property.NormalOf (p q : Property) : Prop where
  remoteName : q.remoteName = p.remoteName
  localName : q.localName = if p.localName = "" then p.remoteName else p.localName
  typeToken : ∃ marked, Unmarks p.typeToken q.typeToken marked ∧ q.isSet = (p.isSet || marked)

/-- The second model is the first one in normal form. -/
structure Model.NormalOf (m n : Model) : Prop where
  name : n.name = m.name
  parent : n.parent = if m.parent = some "" then none else m.parent
  properties : List.Forall₂ Property.NormalOf m.properties n.properties

/-- The second schema is the first one in normal form. -/
structure Schema.NormalOf (s t : Schema) : Prop where
  project : t.project = s.project
  models : List.Forall₂ Model.NormalOf s.models t.models

/-- The model with an empty parent dropped, its local identifiers filled in and a mark taken off each type. -/
def Model.normalForm (m : Model) : Model :=
  { m with
    parent := m.parent.filter (!·.isEmpty)
    properties := m.properties.map fun p => p.withLocalName.withoutMarker }

theorem Property.normalOf_withoutMarker (p : Property) : p.NormalOf p.withLocalName.withoutMarker := by
  rw [withLocalName_eq, withoutMarker_eq]
  exact ⟨rfl, rfl, (splitSetMarker p.typeToken).2, unmarks_splitSetMarker p.typeToken, rfl⟩

theorem Model.normalOf_normalForm (m : Model) : m.NormalOf m.normalForm where
  name := rfl
  parent := by
    rw [normalForm]
    cases m.parent with
    | none => rfl
    | some parent => by_cases h : parent = "" <;> simp [h]
  properties := List.forall₂_map_right_iff.2 (List.forall₂_same.2 fun p _ => p.normalOf_withoutMarker)

theorem Model.normalize_eq (m : Model) : m.normalize =
    match firstRepeated? [] m.withLocalNames.localNames with
    | some name => .error (.duplicate .property name)
    | none => .ok m.normalForm := by
  have hnames : { m with parent := m.parent.filter (!·.isEmpty) }.withLocalNames.localNames =
      m.withLocalNames.localNames := rfl
  have hform : { m with parent := m.parent.filter (!·.isEmpty) }.withLocalNames.properties.map
      Property.withoutMarker = m.normalForm.properties := List.map_map
  unfold normalize
  simp only [hform]
  rw [← hnames]
  rfl

/-! ## What is missing -/

/-- The model has a name, and its properties have remote identifiers. -/
def Model.Complete (m : Model) : Prop := m.name ≠ "" ∧ ∀ p ∈ m.properties, p.remoteName ≠ ""

/-- All models are complete. -/
def Schema.Complete (s : Schema) : Prop := ∀ m ∈ s.models, m.Complete

instance (m : Model) : Decidable m.Complete :=
  inferInstanceAs (Decidable (m.name ≠ "" ∧ ∀ p ∈ m.properties, p.remoteName ≠ ""))

instance (s : Schema) : Decidable s.Complete := inferInstanceAs (Decidable (∀ m ∈ s.models, m.Complete))

/-- The first thing that is missing in the model: its name, or the first remote identifier that is. -/
inductive Model.Lacks (m : Model) : Violation → Prop
  | name (h : m.name = "") : m.Lacks .modelWithoutName
  | remoteName {before after : List Property} {p : Property} (hname : m.name ≠ "")
      (hproperties : m.properties = before ++ p :: after) (hbefore : ∀ q ∈ before, q.remoteName ≠ "")
      (hp : p.remoteName = "") : m.Lacks (.propertyWithoutRemote m.name p.typeToken)

theorem Model.flaw?_eq_none_iff {m : Model} : m.flaw? = none ↔ m.Complete := by
  by_cases hname : m.name = ""
  · simp [flaw?, Complete, hname]
  · simp [flaw?, Complete, hname]

theorem Model.lacks_of_flaw? {m : Model} {v : Violation} (h : m.flaw? = some v) : m.Lacks v := by
  unfold flaw? at h
  split at h
  · next hname =>
    cases h
    exact .name (String.isEmpty_iff.1 hname)
  · next hname =>
    obtain ⟨p, hfind, rfl⟩ := Option.map_eq_some_iff.1 h
    obtain ⟨hp, before, after, hproperties, hbefore⟩ := List.find?_eq_some_iff_append.1 hfind
    exact .remoteName (by simpa using hname) hproperties (by simpa using hbefore) (by simpa using hp)

theorem Schema.validate_cases (s : Schema) :
    (s.validate = .ok () ∧ s.Complete) ∨
      ∃ before m after v, s.models = before ++ m :: after ∧ (∀ n ∈ before, n.Complete) ∧ m.Lacks v ∧
        s.validate = .error (.invalid v) := by
  unfold validate
  cases hflaw : s.models.findSome? Model.flaw? with
  | none =>
    exact .inl ⟨rfl, fun m hm => Model.flaw?_eq_none_iff.1 (List.findSome?_eq_none_iff.1 hflaw m hm)⟩
  | some v =>
    obtain ⟨before, m, after, hmodels, hm, hbefore⟩ := List.findSome?_eq_some_iff.1 hflaw
    exact .inr ⟨before, m, after, v, hmodels, fun n hn => Model.flaw?_eq_none_iff.1 (hbefore n hn),
      Model.lacks_of_flaw? hm, rfl⟩

theorem Model.Lacks.not_complete {m : Model} {v : Violation} (h : m.Lacks v) : ¬ m.Complete := by
  rintro ⟨hname, hremote⟩
  cases h with
  | name h => exact hname h
  | remoteName _ hproperties _ hp => exact hremote _ (hproperties ▸ List.mem_append_right _ List.mem_cons_self) hp

/-! ## What clashes -/

/-- An identifier of a document, with the scope in which it has to be the only one of its kind: all models, or the
properties of the model at a position. -/
inductive Identifier where
  | model (name : String)
  | property (position : Nat) (name : String)
deriving DecidableEq

/-- The refusal of an identifier that stands in its scope already. -/
def Identifier.clash : Identifier → Error
  | model name => .duplicate .model name
  | property _ name => .duplicate .property name

/-- The identifiers of models that begin at a position, in order: the name of each and then the local identifiers of its
properties, filled in. -/
def identifiersFrom (position : Nat) : List Model → List Identifier
  | [] => []
  | m :: rest =>
    .model m.name :: m.withLocalNames.localNames.map (.property position) ++ identifiersFrom (position + 1) rest

/-- The identifiers of a schema in the order of its document. -/
def Schema.identifiers (s : Schema) : List Identifier := identifiersFrom 0 s.models

/-- The list falls apart at the first element that stands in it already, or in `seen`. -/
def FirstClash {α : Type} (seen xs : List α) (x : α) : Prop :=
  ∃ before after, xs = before ++ x :: after ∧ (seen ++ before).Nodup ∧ x ∈ seen ++ before

theorem firstRepeated?_eq_some {seen names : List String} {name : String} (hseen : seen.Nodup)
    (h : firstRepeated? seen names = some name) : FirstClash seen names name := by
  induction names generalizing seen with
  | nil => cases h
  | cons s rest ih =>
    by_cases hs : s ∈ seen
    · obtain rfl : s = name := by simpa [firstRepeated?, hs] using h
      exact ⟨[], rest, rfl, by simpa using hseen, by simpa using hs⟩
    · rw [firstRepeated?, if_neg (by simpa using hs)] at h
      obtain ⟨before, after, rfl, hnodup, hmem⟩ := ih (List.nodup_cons.2 ⟨hs, hseen⟩) h
      exact ⟨s :: before, after, rfl, List.perm_middle.nodup_iff.2 hnodup, by simpa [or_left_comm] using hmem⟩

theorem FirstClash.append {α : Type} {seen xs ys : List α} {x : α} (h : FirstClash (seen ++ xs) ys x) :
    FirstClash seen (xs ++ ys) x := by
  obtain ⟨before, after, rfl, hnodup, hmem⟩ := h
  rw [List.append_assoc] at hnodup hmem
  exact ⟨xs ++ before, after, (List.append_assoc ..).symm, hnodup, hmem⟩

theorem FirstClash.not_nodup {α : Type} {seen xs : List α} {x : α} (h : FirstClash seen xs x) :
    ¬ (seen ++ xs).Nodup := by
  obtain ⟨before, after, rfl, -, hmem⟩ := h
  intro hnodup
  rw [← List.append_assoc, List.nodup_middle, List.nodup_cons] at hnodup
  exact hnodup.1 (List.mem_append_left after hmem)

/-- What is known of the identifiers of the models in front of a position: none of them clashes with another one, and the
names among them are those that were seen. -/
structure Recorded (earlier : List Identifier) (seen : List String) (position : Nat) : Prop where
  nodup : earlier.Nodup
  names : ∀ name, Identifier.model name ∈ earlier ↔ name ∈ seen
  positions : ∀ i name, Identifier.property i name ∈ earlier → i < position

section Recorded

variable {earlier : List Identifier} {seen : List String} {position : Nat} {name : String} {localNames : List String}

/-- The identifiers of a model do not clash with those of earlier models if its name does not, and they do not clash
with one another if the local identifiers do not. -/
theorem Recorded.nodup_append (h : Recorded earlier seen position) (hname : name ∉ seen) (hlocal : localNames.Nodup) :
    (earlier ++ Identifier.model name :: localNames.map (.property position)).Nodup := by
  have hmap : (localNames.map (Identifier.property position)).Nodup :=
    hlocal.map fun a b hab => (Identifier.property.inj hab).2
  refine List.nodup_append.2 ⟨h.nodup, List.nodup_cons.2 ⟨by simp, hmap⟩, ?_⟩
  rintro a ha b hb rfl
  rcases List.mem_cons.1 hb with rfl | hb
  · exact hname ((h.names name).1 ha)
  · obtain ⟨n, -, rfl⟩ := List.mem_map.1 hb
    exact Nat.lt_irrefl _ (h.positions _ _ ha)

theorem Recorded.append (h : Recorded earlier seen position) (hname : name ∉ seen) (hlocal : localNames.Nodup) :
    Recorded (earlier ++ .model name :: localNames.map (.property position)) (name :: seen) (position + 1) where
  nodup := h.nodup_append hname hlocal
  names other := by simp [h.names, or_comm]
  positions i other hmem := by
    simp only [List.mem_append, List.mem_cons, List.mem_map, reduceCtorEq, false_or] at hmem
    rcases hmem with hmem | ⟨_, -, hmem⟩
    · exact Nat.lt_succ_of_lt (h.positions i other hmem)
    · obtain ⟨rfl, -⟩ := Identifier.property.inj hmem
      exact Nat.lt_succ_self _

end Recorded

/-- Models are put into normal form one by one up to the first identifier that clashes with an earlier one. -/
theorem normalizeModels_cases {seen : List String} {earlier : List Identifier} {position : Nat} (models : List Model)
    (h : Recorded earlier seen position) :
    ((earlier ++ identifiersFrom position models).Nodup ∧
        normalizeModels seen models = .ok (models.map Model.normalForm)) ∨
      ∃ x, FirstClash earlier (identifiersFrom position models) x ∧
        normalizeModels seen models = .error x.clash := by
  induction models generalizing seen earlier position with
  | nil => exact .inl ⟨by simpa [identifiersFrom] using h.nodup, rfl⟩
  | cons m rest ih =>
    by_cases hm : m.name ∈ seen
    · refine .inr ⟨.model m.name, ⟨[], _, rfl, by simpa using h.nodup, by simpa using (h.names _).2 hm⟩, ?_⟩
      rw [normalizeModels, if_pos (by simpa using hm)]
      rfl
    · rw [normalizeModels, if_neg (by simpa using hm), Model.normalize_eq]
      cases hrepeated : firstRepeated? [] m.withLocalNames.localNames with
      | some name =>
        -- the local identifiers before the repeated one do not clash with anything
        obtain ⟨before, after, hlocal, hnodup, hmem⟩ := firstRepeated?_eq_some List.nodup_nil hrepeated
        refine .inr ⟨.property position name, ⟨.model m.name :: before.map (.property position),
          after.map (.property position) ++ identifiersFrom (position + 1) rest, ?_, ?_, ?_⟩, rfl⟩
        · simp [identifiersFrom, hlocal]
        · exact h.nodup_append hm (by simpa using hnodup)
        · simp only [List.mem_append, List.mem_cons]
          exact .inr (.inr (List.mem_map_of_mem (by simpa using hmem)))
      | none =>
        have hform : m.normalForm.name = m.name := rfl
        simp only [hform]
        rcases ih (h.append hm (firstRepeated?_eq_none_iff.1 hrepeated).1) with ⟨hnodup, hok⟩ | ⟨x, hclash, herror⟩
        · refine .inl ⟨by simpa [identifiersFrom] using hnodup, ?_⟩
          rw [hok]
          rfl
        · refine .inr ⟨x, hclash.append, ?_⟩
          rw [herror]
          rfl

theorem model_mem_identifiersFrom {position : Nat} {models : List Model} {name : String} :
    Identifier.model name ∈ identifiersFrom position models ↔ name ∈ models.map (·.name) := by
  induction models generalizing position with
  | nil => simp [identifiersFrom]
  | cons m rest ih => simp [identifiersFrom, ih]

theorem le_of_property_mem_identifiersFrom {position i : Nat} {models : List Model} {name : String}
    (h : Identifier.property i name ∈ identifiersFrom position models) : position ≤ i := by
  induction models generalizing position with
  | nil => cases h
  | cons m rest ih =>
    simp only [identifiersFrom, List.cons_append, List.mem_cons, List.mem_append, List.mem_map, reduceCtorEq,
      false_or] at h
    rcases h with ⟨_, -, h⟩ | h
    · exact Nat.le_of_eq (Identifier.property.inj h).1
    · exact Nat.le_of_succ_le (ih h)

/-- The scopes are those of the models' names and of the local identifiers of each model. -/
theorem nodup_identifiersFrom_iff {position : Nat} {models : List Model} :
    (identifiersFrom position models).Nodup ↔
      (models.map (·.name)).Nodup ∧ ∀ m ∈ models, m.withLocalNames.Unambiguous := by
  induction models generalizing position with
  | nil => simp [identifiersFrom]
  | cons m rest ih =>
    have hproperties : (m.withLocalNames.localNames.map (Identifier.property position)).Nodup ↔
        m.withLocalNames.Unambiguous :=
      List.nodup_map_iff fun a b hab => (Identifier.property.inj hab).2
    have hdisjoint : ∀ a ∈ m.withLocalNames.localNames.map (Identifier.property position),
        ∀ b ∈ identifiersFrom (position + 1) rest, a ≠ b := by
      rintro a ha b hb rfl
      obtain ⟨n, -, rfl⟩ := List.mem_map.1 ha
      exact Nat.not_succ_le_self _ (le_of_property_mem_identifiersFrom hb)
    have hmodel : Identifier.model m.name ∉ m.withLocalNames.localNames.map (Identifier.property position) := by simp
    rw [identifiersFrom, List.cons_append, List.nodup_cons, List.nodup_append, and_iff_left hdisjoint, List.mem_append,
      or_iff_right hmodel, model_mem_identifiersFrom, hproperties, ih, List.map_cons, List.nodup_cons,
      List.forall_mem_cons]
    tauto

/-! ## Accepting a schema value -/

namespace Schema

/-- What a schema value is accepted as. -/
def normalForm (s : Schema) : Schema := { s with models := s.models.map Model.normalForm }

theorem normalOf_normalForm (s : Schema) : s.NormalOf s.normalForm where
  project := rfl
  models := List.forall₂_map_right_iff.2 (List.forall₂_same.2 fun m _ => m.normalOf_normalForm)

/-- A complete schema is accepted in its normal form, or refused for the first identifier that clashes. -/
theorem accept_of_complete {s : Schema} (h : s.Complete) :
    (s.identifiers.Nodup ∧ s.accept = .ok s.normalForm) ∨
      ∃ x, FirstClash [] s.identifiers x ∧ s.accept = .error x.clash := by
  have hvalid : s.validate = .ok () := by
    rcases s.validate_cases with ⟨hvalid, -⟩ | ⟨before, m, after, v, hmodels, -, hlacks, -⟩
    · exact hvalid
    · exact absurd (h m (hmodels ▸ List.mem_append_right _ List.mem_cons_self)) hlacks.not_complete
  unfold accept normalize
  rw [hvalid]
  have hnothing : Recorded [] [] 0 := ⟨List.nodup_nil, by simp, by simp⟩
  rcases normalizeModels_cases s.models hnothing with ⟨hnodup, hok⟩ | ⟨x, hclash, herror⟩
  · refine .inl ⟨hnodup, ?_⟩
    rw [hok]
    rfl
  · refine .inr ⟨x, hclash, ?_⟩
    rw [herror]
    rfl

theorem nodup_identifiers_iff {s : Schema} :
    s.identifiers.Nodup ↔ s.names.Nodup ∧ ∀ m ∈ s.models, m.withLocalNames.Unambiguous := nodup_identifiersFrom_iff

theorem accept_eq_ok_iff {s t : Schema} : s.accept = .ok t ↔
    (s.Complete ∧ s.names.Nodup ∧ ∀ m ∈ s.models, m.withLocalNames.Unambiguous) ∧ t = s.normalForm := by
  rw [← nodup_identifiers_iff]
  by_cases hcomplete : s.Complete
  · rcases accept_of_complete hcomplete with ⟨hnodup, hok⟩ | ⟨x, hclash, herror⟩
    · rw [hok, Except.ok.injEq, eq_comm]
      exact (and_iff_right ⟨hcomplete, hnodup⟩).symm
    · have hnot : ¬ s.identifiers.Nodup := hclash.not_nodup
      simp [herror, hnot]
  · rcases s.validate_cases with ⟨-, hcomplete'⟩ | ⟨before, m, after, v, -, -, -, hinvalid⟩
    · exact absurd hcomplete' hcomplete
    · simp [accept, hinvalid, hcomplete]

/-- A document is accepted exactly if every model has a name, every property a remote identifier, the names of the models
differ, and so do the local identifiers of each model, the ones filled in included; then it is in normal form what it
says. Otherwise the first thing that is missing is reported, and if nothing is missing the first clash. -/
theorem load_of_decode_eq {document : String} {s : Schema} (h : Json.decode Schema.read document = .ok s) :
    ((∃ t, load document = .ok t) ↔
      s.Complete ∧ s.names.Nodup ∧ ∀ m ∈ s.models, m.withLocalNames.Unambiguous) ∧
    (∀ t, load document = .ok t → s.NormalOf t) ∧
    (¬ s.Complete → ∃ before m after v, s.models = before ++ m :: after ∧ (∀ n ∈ before, n.Complete) ∧ m.Lacks v ∧
      load document = .error (.invalid v)) ∧
    (s.Complete → (¬ ∃ t, load document = .ok t) →
      ∃ x, FirstClash [] s.identifiers x ∧ load document = .error x.clash) := by
  rw [load_of_decode h]
  refine ⟨?_, fun t ht => ?_, fun hmissing => ?_, fun hcomplete hrefused => ?_⟩
  · simp only [accept_eq_ok_iff, exists_and_left, exists_eq, and_true]
  · obtain ⟨-, rfl⟩ := accept_eq_ok_iff.1 ht
    exact s.normalOf_normalForm
  · rcases s.validate_cases with ⟨-, hcomplete⟩ | ⟨before, m, after, v, hmodels, hbefore, hlacks, hinvalid⟩
    · exact absurd hcomplete hmissing
    · exact ⟨before, m, after, v, hmodels, hbefore, hlacks, by rw [accept, hinvalid]⟩
  · rcases accept_of_complete hcomplete with ⟨-, hok⟩ | hclash
    · exact absurd ⟨_, hok⟩ hrefused
    · exact hclash

/-- Two documents, which have their records as arrays: one with marks, an empty parent and a local identifier to fill
in, and one in which a local identifier clashes before the name of a model does. -/
theorem load_of_decode_eq_clash :
    let marked := "[\"\",[[\"Order\",\"\",[[\"id\",\"\",\"[]int[]\"],[\"tags\",\"Tags\",\"text[]\",false]]]]]"
    let clashing := "[\"\",[[\"A\",null,[[\"id\"],[\"key\",\"id\"]]],[\"A\"]]]"
    let order : Model := ⟨"Order", some "", [⟨"id", "", "[]int[]", false⟩, ⟨"tags", "Tags", "text[]", false⟩]⟩
    let twice : Model := ⟨"A", none, [⟨"id", "", "", false⟩, ⟨"key", "id", "", false⟩]⟩
    Json.decode Schema.read marked = .ok ⟨"", [order]⟩ ∧
      Json.decode Schema.read clashing = .ok ⟨"", [twice, ⟨"A", none, []⟩]⟩ ∧
      (∃ t, load marked = .ok t ∧ Schema.NormalOf ⟨"", [order]⟩ t) ∧
      ∃ x, FirstClash [] (identifiers ⟨"", [twice, ⟨"A", none, []⟩]⟩) x ∧
        load clashing = .error x.clash := by
  intro marked clashing order twice
  have hmarked : Json.decode Schema.read marked = .ok ⟨"", [order]⟩ := by decide +kernel
  have hclashing : Json.decode Schema.read clashing = .ok ⟨"", [twice, ⟨"A", none, []⟩]⟩ := by decide +kernel
  obtain ⟨haccepted, hform, -⟩ := load_of_decode_eq hmarked
  obtain ⟨hrefused, -, -, hclash⟩ := load_of_decode_eq hclashing
  have hcomplete : Complete ⟨"", [twice, ⟨"A", none, []⟩]⟩ := by decide
  obtain ⟨t, ht⟩ := haccepted.2 ⟨by decide, by decide, by decide⟩
  refine ⟨hmarked, hclashing, ⟨t, ht, hform t ht⟩, hclash hcomplete (mt hrefused.1 ?_)⟩
  rintro ⟨-, hnames, -⟩
  exact absurd hnames (by decide)

end Schema

end Stencil
