import Stencil.Proofs.Schema.Acceptance
/-!
# Reading an accepted schema again

What is accepted can be written and read again, and is accepted again. Everything in it stays as it is but type tokens
that have a mark left: of each token one more mark is taken off. So an accepted schema is read as itself exactly if no
mark is left (`load_toJson`). None is left, and no type is empty, if and only if every token of the document is an
element type with at most one mark.
-/

namespace Stencil

/-! ## Tokens -/

/-- The token is the type of an element: it is there, and has no mark. -/
def IsElement (token : String) : Prop := token ≠ "" ∧ ¬ Marked token

/-- The token is the type of an element or of a collection of elements. -/
def IsElementOrSet (token : String) : Prop :=
  ∃ element, IsElement element ∧ (token = element ∨ token = "[]" ++ element ∨ token = element ++ "[]")

/-- A mark behind an element type is not one in front of something. -/
theorem IsElement.append_ne {element : String} (h : IsElement element) (bare : String) :
    element ++ "[]" ≠ "[]" ++ bare := by
  obtain ⟨hne, hmarked⟩ := h
  intro heq
  have hlist := congrArg String.toList heq
  rw [String.toList_append, String.toList_append] at hlist
  have hmark : "[]".toList = ['[', ']'] := by decide
  rw [hmark] at hlist
  match hcs : element.toList with
  | [] => exact hne (String.toList_eq_nil_iff.1 hcs)
  | [c] =>
    rw [hcs] at hlist
    exact absurd (List.cons.inj (List.cons.inj hlist).2).1 (by decide)
  | c :: d :: cs =>
    rw [hcs] at hlist
    obtain ⟨rfl, hrest⟩ := List.cons.inj hlist
    obtain ⟨rfl, -⟩ := List.cons.inj hrest
    refine hmarked ⟨String.ofList cs, .inl ?_⟩
    rw [← String.toList_inj, String.toList_append, String.toList_ofList, String.toList_ofList, hcs]
    rfl

/-- Without one mark a token is an element type exactly if it is that of an element or of a collection. -/
theorem Unmarks.isElement_iff {token bare : String} {marked : Bool} (h : Unmarks token bare marked) :
    IsElement bare ↔ IsElementOrSet token := by
  constructor
  · intro hbare
    refine ⟨bare, hbare, ?_⟩
    cases h with
    | leading => exact .inr (.inl rfl)
    | trailing => exact .inr (.inr rfl)
    | none => exact .inl rfl
  · rintro ⟨element, helement, htoken⟩
    suffices hbare : bare = element from hbare ▸ helement
    cases h with
    | leading =>
      rcases htoken with rfl | htoken | htoken
      · exact absurd ⟨bare, .inl rfl⟩ helement.2
      · exact (String.append_right_inj _).1 htoken
      · exact absurd htoken.symm (helement.append_ne bare)
    | trailing _ h =>
      rcases htoken with rfl | htoken | htoken
      · exact absurd ⟨bare, .inr rfl⟩ helement.2
      · exact absurd htoken (h element)
      · exact (String.append_left_inj _).1 htoken
    | none _ h =>
      rcases htoken with htoken | htoken | htoken
      · exact htoken
      · exact absurd ⟨element, .inl htoken⟩ h
      · exact absurd ⟨element, .inr htoken⟩ h

/-! ## Taking off one more mark -/

theorem Unmarks.of_true {token bare : String} (h : Unmarks token bare true) : Marked token ∧ bare ≠ token := by
  refine ⟨?_, fun heq => ?_⟩
  · cases h with
    | leading => exact ⟨bare, .inl rfl⟩
    | trailing => exact ⟨bare, .inr rfl⟩
  · cases h with
    | leading => simpa using congrArg String.length heq
    | trailing => simpa using congrArg String.length heq

namespace Property

theorem withoutMarker_eq_iff {p : Property} : p.withoutMarker = p ↔ ¬ Marked p.typeToken := by
  have hunmarks := unmarks_splitSetMarker p.typeToken
  rw [withoutMarker_eq]
  cases hmarked : (splitSetMarker p.typeToken).2 with
  | true =>
    rw [hmarked] at hunmarks
    exact ⟨fun heq => absurd (congrArg typeToken heq) hunmarks.of_true.2, fun hnot => absurd hunmarks.of_true.1 hnot⟩
  | false =>
    rw [hmarked] at hunmarks
    obtain ⟨hbare, hnot⟩ := hunmarks.of_false
    simp [hbare, hnot]

/-- Filling in a local identifier and taking off a mark do not get in each other's way. -/
theorem withLocalName_withoutMarker (p : Property) : p.withoutMarker.withLocalName = p.withLocalName.withoutMarker := by
  simp only [withLocalName_eq, withoutMarker_eq]

end Property

/-- The model with one mark taken off each type. -/
def Model.withoutMarkers (m : Model) : Model := { m with properties := m.properties.map Property.withoutMarker }

/-- The schema with one mark taken off each type. -/
def Schema.withoutMarkers (s : Schema) : Schema := { s with models := s.models.map Model.withoutMarkers }

/-- A list is left as it is if all its elements are. -/
theorem map_eq_self_iff {α : Type} {f : α → α} {xs : List α} : xs.map f = xs ↔ ∀ x ∈ xs, f x = x := by
  have hself := List.map_inj_left (l := xs) (f := f) (g := id)
  rwa [List.map_id] at hself

theorem Model.withoutMarkers_eq_iff {m : Model} :
    m.withoutMarkers = m ↔ ∀ p ∈ m.properties, ¬ Marked p.typeToken := by
  simp only [← Property.withoutMarker_eq_iff, ← map_eq_self_iff]
  exact ⟨congrArg properties, fun h => by rw [withoutMarkers, h]⟩

theorem Schema.withoutMarkers_eq_iff {s : Schema} :
    s.withoutMarkers = s ↔ ∀ m ∈ s.models, ∀ p ∈ m.properties, ¬ Marked p.typeToken := by
  simp only [← Model.withoutMarkers_eq_iff, ← map_eq_self_iff]
  exact ⟨congrArg models, fun h => by rw [withoutMarkers, h]⟩

theorem Model.normalForm_normalForm (m : Model) : m.normalForm.normalForm = m.normalForm.withoutMarkers := by
  have hparent : (m.parent.filter (!·.isEmpty)).filter (!·.isEmpty) = m.parent.filter (!·.isEmpty) := by
    simp [Option.filter_filter]
  have hproperty (p : Property) : p.withLocalName.withoutMarker.withLocalName.withoutMarker =
      p.withLocalName.withoutMarker.withoutMarker := by
    rw [Property.withLocalName_withoutMarker, Property.withLocalName_withLocalName]
  simp only [normalForm, withoutMarkers, hparent, List.map_map, Function.comp_def, hproperty]

namespace Schema

theorem normalForm_normalForm (s : Schema) : s.normalForm.normalForm = s.normalForm.withoutMarkers := by
  simp only [normalForm, withoutMarkers, List.map_map, Function.comp_def, Model.normalForm_normalForm]

/-! ## Accepted schemas -/

/-- A normal form is accepted if the schema is. -/
theorem accept_of_accept {s t : Schema} (h : s.accept = .ok t) : t.accept = .ok t.withoutMarkers := by
  have hmodels := (unambiguous_of_accept h).2
  obtain ⟨⟨hcomplete, hnames, -⟩, rfl⟩ := accept_eq_ok_iff.1 h
  have hsame : s.normalForm.names = s.names := by simp [names, normalForm, Model.normalForm]
  refine accept_eq_ok_iff.2 ⟨⟨fun m hm => ?_, hsame ▸ hnames, hmodels⟩, s.normalForm_normalForm.symm⟩
  obtain ⟨n, hn, rfl⟩ := List.mem_map.1 hm
  refine ⟨(hcomplete n hn).1, fun p hp => ?_⟩
  obtain ⟨q, hq, rfl⟩ := List.mem_map.1 hp
  rw [q.normalOf_withoutMarker.remoteName]
  exact (hcomplete n hn).2 q hq

theorem isElement_normalForm_iff {s : Schema} :
    (∀ m ∈ s.normalForm.models, ∀ p ∈ m.properties, IsElement p.typeToken) ↔
      ∀ m ∈ s.models, ∀ p ∈ m.properties, IsElementOrSet p.typeToken := by
  have hproperty (p : Property) :
      IsElement p.withLocalName.withoutMarker.typeToken ↔ IsElementOrSet p.typeToken := by
    obtain ⟨marked, hunmarks, -⟩ := p.normalOf_withoutMarker.typeToken
    exact hunmarks.isElement_iff
  simp only [normalForm, Model.normalForm, List.forall_mem_map, hproperty]

/-- What is accepted is accepted again when it is written with all its fields, and then one more mark is off each type.
So it is read as itself exactly if no type has a mark left, and no type is empty or has a mark exactly if every type in
the document is that of an element or of a collection of elements. -/
theorem load_toJson {document : String} {t : Schema} (h : load document = .ok t) :
    load t.toJson.compact = .ok t.withoutMarkers ∧
    (load t.toJson.compact = .ok t ↔ ∀ m ∈ t.models, ∀ p ∈ m.properties, ¬ Marked p.typeToken) ∧
    ∃ s, Json.decode Schema.read document = .ok s ∧
      ((∀ m ∈ t.models, ∀ p ∈ m.properties, IsElement p.typeToken) ↔
        ∀ m ∈ s.models, ∀ p ∈ m.properties, IsElementOrSet p.typeToken) := by
  obtain ⟨s, hs, haccept⟩ := load_eq_ok h
  rw [load_of_decode t.decode_toJson, accept_of_accept haccept]
  refine ⟨rfl, ?_, s, hs, ?_⟩
  · rw [← withoutMarkers_eq_iff, Except.ok.injEq]
  · obtain ⟨-, rfl⟩ := accept_eq_ok_iff.1 haccept
    exact isElement_normalForm_iff

/-- Of a token with two marks one is left, and a mark alone leaves nothing. The next reading takes off the other mark. -/
theorem load_toJson_marks :
    let document := "[\"\",[[\"A\",null,[[\"x\",\"\",\"[][]int\"],[\"y\",\"\",\"[]\"]]]]]"
    let first : Schema := ⟨"", [⟨"A", none, [⟨"x", "x", "[]int", true⟩, ⟨"y", "y", "", true⟩]⟩]⟩
    load document = .ok first ∧ load first.toJson.compact ≠ .ok first ∧
      load first.toJson.compact = .ok ⟨"", [⟨"A", none, [⟨"x", "x", "int", true⟩, ⟨"y", "y", "", true⟩]⟩]⟩ := by
  intro document first
  have hload : load document = .ok first := by decide +kernel
  obtain ⟨hagain, hsame, -⟩ := load_toJson hload
  refine ⟨hload, fun hfirst => ?_, ?_⟩
  · have hunmarked := hsame.1 hfirst _ List.mem_cons_self ⟨"x", "x", "[]int", true⟩ List.mem_cons_self
    exact hunmarked ⟨"int", .inl rfl⟩
  · rw [hagain]
    decide +kernel

end Schema

end Stencil
