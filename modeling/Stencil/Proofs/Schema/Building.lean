import Stencil.Proofs.Schema.Acceptance
/-!
# Building a model and loading it

A model can be built property by property, or loaded from a document that holds the same properties. Adding looks at
the local identifiers that the model has so far, and puts each property into its final form at once; loading fills in
all local identifiers, looks for one that stands there twice, and takes the marks off at the end. Both come to the first
local identifier that is there already, or else to the same properties (`load_eq_addAll`).
-/

namespace Stencil

open Json

/-- What is said of a property: its remote identifier, its local one, which may be empty, and its type. -/
structure Declaration where
  remoteName : String
  localName : String
  typeToken : String
deriving Repr, DecidableEq

namespace Declaration

/-- There is a remote identifier, and a type that is not only a mark. -/
def Sound (d : Declaration) : Prop := d.remoteName ≠ "" ∧ d.typeToken ≠ "" ∧ d.typeToken ≠ "[]"

instance (d : Declaration) : Decidable d.Sound :=
  inferInstanceAs (Decidable (d.remoteName ≠ "" ∧ d.typeToken ≠ "" ∧ d.typeToken ≠ "[]"))

/-- The property as it is added. -/
def added (d : Declaration) : Property := .ofCall d.remoteName d.localName d.typeToken

/-- The property as it is read. -/
def written (d : Declaration) : Property := ⟨d.remoteName, d.localName, d.typeToken, false⟩

/-- The property in a document that leaves out whether it is a collection. -/
def toJson (d : Declaration) : Json :=
  .ofEntries [("RemoteIdentifier", .text d.remoteName), ("LocalIdentifier", .text d.localName),
    ("PropertyType", .text d.typeToken)]

end Declaration

/-- Adds properties one after another, up to the first that is refused. -/
def Model.addAll (m : Model) (ds : List Declaration) : Except Error Model :=
  ds.foldlM (fun m d => m.addProperty d.remoteName d.localName d.typeToken) m

/-- A model of a document, with these properties. -/
def Declaration.modelToJson (name : String) (ds : List Declaration) : Json :=
  .ofEntries [("Name", .text name), ("Properties", .array (ds.map toJson))]

/-- The document of a single model with these properties. -/
def Declaration.documentOf (name : String) (ds : List Declaration) : Json :=
  .ofEntries [("Models", .array [modelToJson name ds])]

/-! ## Reading the document -/

namespace Declaration

theorem toJson_eq (d : Declaration) : d.toJson =
    .object [("LocalIdentifier", .text d.localName), ("PropertyType", .text d.typeToken),
      ("RemoteIdentifier", .text d.remoteName)] := rfl

theorem decodeValue_toJson (d : Declaration) : decodeValue Property.read d.toJson = .ok d.written := by
  simp [decodeValue, toJson_eq, written, Property.read, toDocument, membersToDocument, readRecord, fillByName, Field.of,
    readText, Except.map, ending]

theorem modelToJson_eq (name : String) (ds : List Declaration) :
    modelToJson name ds = .object [("Name", .text name), ("Properties", .array (ds.map toJson))] := rfl

theorem decodeValue_modelToJson (name : String) (ds : List Declaration) :
    decodeValue Model.read (modelToJson name ds) = .ok ⟨name, none, ds.map written⟩ := by
  have hproperties := readList_array decodeValue_toJson ds
  simp [decodeValue, modelToJson_eq, Model.read, toDocument, membersToDocument, readRecord, fillByName, Field.of,
    readText, Except.map, ending, hproperties]

theorem documentOf_eq (name : String) (ds : List Declaration) :
    documentOf name ds = .object [("Models", .array [modelToJson name ds])] := rfl

theorem numberless_documentOf (name : String) (ds : List Declaration) : Numberless (documentOf name ds) := by
  simp [documentOf_eq, modelToJson_eq, toJson_eq, Numberless, NumberlessMembers, NumberlessItems, numberlessItems_iff]

/-- The text of the document is read as the model with the properties as they are written. -/
theorem decode_documentOf (name : String) (ds : List Declaration) :
    decode Schema.read (documentOf name ds).compact = .ok ⟨"", [⟨name, none, ds.map written⟩]⟩ := by
  have hmodels := readList_array (decodeValue_modelToJson name) [ds]
  rw [List.map_singleton, List.map_singleton] at hmodels
  rw [decode_compact Schema.read (numberless_documentOf name ds)]
  simp [decodeValue, documentOf_eq, Schema.read, toDocument, membersToDocument, readRecord, fillByName, Field.of,
    Except.map, ending, hmodels]

end Declaration

/-! ## Adding -/

theorem Unmarks.eq_empty_iff {token bare : String} {marked : Bool} (h : Unmarks token bare marked) :
    bare = "" ↔ token = "" ∨ token = "[]" := by
  cases h with
  | leading => simp
  | trailing => simp
  | none _ h =>
    have hmark : token ≠ "[]" := fun htoken => h ⟨"", .inl htoken⟩
    simp [hmark]

namespace Declaration

/-- A property is added as it is put into normal form. -/
theorem withoutMarker_written (d : Declaration) : d.written.withLocalName.withoutMarker = d.added := by
  simp only [Property.withLocalName_eq, Property.withoutMarker_eq, added, written, Property.ofCall, Bool.false_or,
    String.isEmpty_iff]

theorem localName_written (d : Declaration) : d.written.withLocalName.localName = d.added.localName := by
  rw [← withoutMarker_written, Property.withoutMarker_eq]

end Declaration

theorem Model.addProperty_of_sound {m : Model} {d : Declaration} (h : d.Sound) :
    m.addProperty d.remoteName d.localName d.typeToken =
      if d.added.localName ∈ m.localNames then .error (.duplicate .property d.added.localName)
      else .ok (m.extend [d.added]) := by
  obtain ⟨hremote, htoken⟩ := h
  have htype : (Property.ofCall d.remoteName d.localName d.typeToken).typeToken ≠ "" := fun hempty =>
    not_or.2 htoken ((unmarks_splitSetMarker d.typeToken).eq_empty_iff.1 hempty)
  simp only [addProperty_eq, hremote, false_and, if_false, htype]
  rfl

/-- Adding goes on up to the first local identifier that the model has already. -/
theorem Model.addAll_eq {m : Model} {ds : List Declaration} {seen : List String}
    (hseen : ∀ name, name ∈ seen ↔ name ∈ m.localNames) (h : ∀ d ∈ ds, d.Sound) :
    m.addAll ds =
      match firstRepeated? seen (ds.map (·.added.localName)) with
      | some name => .error (.duplicate .property name)
      | none => .ok (m.extend (ds.map Declaration.added)) := by
  induction ds generalizing m seen with
  | nil => simp [addAll, firstRepeated?, pure, Except.pure]
  | cons d rest ih =>
    rw [List.forall_mem_cons] at h
    have hstep : m.addAll (d :: rest) =
        m.addProperty d.remoteName d.localName d.typeToken >>= fun m => m.addAll rest := List.foldlM_cons
    rw [hstep, addProperty_of_sound h.1, List.map_cons, firstRepeated?]
    by_cases hd : d.added.localName ∈ m.localNames
    · rw [if_pos hd, if_pos (by simpa using (hseen _).2 hd)]
      rfl
    · have hseen' (name : String) :
          name ∈ d.added.localName :: seen ↔ name ∈ (m.extend [d.added]).localNames := by
        simp [localNames, extend, hseen, or_comm]
      rw [if_neg hd, if_neg (by simpa using mt (hseen _).1 hd)]
      have hrest := ih hseen' h.2
      rw [extend_extend] at hrest
      exact hrest

/-! ## Loading -/

/-- A single complete model is accepted up to the first local identifier that is there twice. -/
theorem Schema.accept_singleton {project : String} {m : Model} (h : m.Complete) :
    accept ⟨project, [m]⟩ =
      match firstRepeated? [] m.withLocalNames.localNames with
      | some name => .error (.duplicate .property name)
      | none => .ok ⟨project, [m.normalForm]⟩ := by
  have hflaw : m.flaw? = none := Model.flaw?_eq_none_iff.2 h
  simp only [accept, validate, List.findSome?_cons, List.findSome?_nil, hflaw, normalize, normalizeModels,
    Model.normalize_eq]
  cases firstRepeated? [] m.withLocalNames.localNames <;> rfl

namespace Declaration

theorem localNames_written (name : String) (parent : Option String) (ds : List Declaration) :
    Model.localNames (Model.withLocalNames ⟨name, parent, ds.map written⟩) = ds.map (·.added.localName) := by
  simp [Model.localNames, Model.withLocalNames, Function.comp_def, localName_written]

theorem properties_normalForm_written (name : String) (parent : Option String) (ds : List Declaration) :
    (Model.normalForm ⟨name, parent, ds.map written⟩).properties = ds.map added := by
  simp [Model.normalForm, Function.comp_def, withoutMarker_written]

/-- Adding properties to a model that has none and accepting a model that is written with them come to the same. -/
theorem addAll_accept_cases {name project : String} {parent : Option String} {ds : List Declaration} (hname : name ≠ "")
    (h : ∀ d ∈ ds, d.Sound) :
    (∃ m n, Model.addAll { name } ds = .ok m ∧
        Schema.accept ⟨project, [⟨name, parent, ds.map written⟩]⟩ = .ok ⟨project, [n]⟩ ∧
        n.name = name ∧ n.properties = m.properties) ∨
      ∃ x, FirstClash [] (ds.map (·.added.localName)) x ∧
        Model.addAll { name } ds = .error (.duplicate .property x) ∧
        Schema.accept ⟨project, [⟨name, parent, ds.map written⟩]⟩ = .error (.duplicate .property x) := by
  have hcomplete : Model.Complete ⟨name, parent, ds.map written⟩ :=
    ⟨hname, List.forall_mem_map.2 fun d hd => (h d hd).1⟩
  have hnothing (x : String) : x ∈ [] ↔ x ∈ Model.localNames { name } := by simp [Model.localNames]
  rw [Schema.accept_singleton hcomplete, localNames_written, Model.addAll_eq hnothing h]
  cases hrepeated : firstRepeated? [] (ds.map (·.added.localName)) with
  | some x => exact .inr ⟨x, firstRepeated?_eq_some List.nodup_nil hrepeated, rfl, rfl⟩
  | none => exact .inl ⟨_, _, rfl, rfl, rfl, properties_normalForm_written name parent ds⟩

/-- Properties with remote identifiers and types can be added one after another exactly if a document that holds them in
its only model is accepted. The properties are the same then; otherwise both are refused for the same local identifier,
the first one that is there already. There is such a document, and any that is read alike will do. -/
theorem load_eq_addAll {name : String} {ds : List Declaration} (hname : name ≠ "") (h : ∀ d ∈ ds, d.Sound) :
    decode Schema.read (documentOf name ds).compact = .ok ⟨"", [⟨name, none, ds.map written⟩]⟩ ∧
    ∀ document project parent,
      decode Schema.read document = .ok ⟨project, [⟨name, parent, ds.map written⟩]⟩ →
      ((∃ m, Model.addAll { name } ds = .ok m) ↔ ∃ s, Schema.load document = .ok s) ∧
      (∀ m s, Model.addAll { name } ds = .ok m → Schema.load document = .ok s →
        ∃ n, s = ⟨project, [n]⟩ ∧ n.name = name ∧ n.properties = m.properties) ∧
      ((¬ ∃ m, Model.addAll { name } ds = .ok m) →
        ∃ x, FirstClash [] (ds.map (·.added.localName)) x ∧
          Model.addAll { name } ds = .error (.duplicate .property x) ∧
          Schema.load document = .error (.duplicate .property x)) := by
  refine ⟨decode_documentOf name ds, fun document project parent hread => ?_⟩
  rw [Schema.load_of_decode hread]
  rcases addAll_accept_cases hname h with ⟨m, n, hadded, haccept, hsame⟩ | ⟨x, hclash, hadded, haccept⟩
  · rw [hadded, haccept]
    refine ⟨⟨fun _ => ⟨_, rfl⟩, fun _ => ⟨_, rfl⟩⟩, ?_, fun hnot => absurd ⟨m, rfl⟩ hnot⟩
    rintro _ _ ⟨⟩ ⟨⟩
    exact ⟨n, rfl, hsame⟩
  · rw [hadded, haccept]
    exact ⟨by simp, by simp, fun _ => ⟨x, hclash, rfl, rfl⟩⟩

/-- A local identifier that is filled in clashes with one that is given, whichever is first, and marks on either side of
a type make collections. -/
theorem load_eq_addAll_clash :
    let given : List Declaration := [⟨"key", "id", "text"⟩, ⟨"id", "", "int[]"⟩]
    let filled : List Declaration := [⟨"id", "", "int[]"⟩, ⟨"key", "id", "text"⟩]
    let apart : List Declaration := [⟨"id", "", "int[]"⟩, ⟨"key", "Key", "[]text"⟩]
    Schema.load (documentOf "Order" given).compact = .error (.duplicate .property "id") ∧
      Schema.load (documentOf "Order" filled).compact = .error (.duplicate .property "id") ∧
      ∃ s, Schema.load (documentOf "Order" apart).compact = .ok s ∧
        ∀ m ∈ s.models, m.properties = [⟨"id", "id", "int", true⟩, ⟨"key", "Key", "text", true⟩] := by
  intro given filled apart
  have hrefused (ds : List Declaration) (h : ∀ d ∈ ds, d.Sound)
      (hadded : Model.addAll ⟨"Order", none, []⟩ ds = .error (.duplicate .property "id")) :
      Schema.load (documentOf "Order" ds).compact = .error (.duplicate .property "id") := by
    obtain ⟨hread, hload⟩ := load_eq_addAll (by decide : "Order" ≠ "") h
    obtain ⟨-, -, hclash⟩ := hload _ _ _ hread
    obtain ⟨x, -, hx, hdocument⟩ := hclash (by simp [hadded])
    rw [hadded] at hx
    cases hx
    exact hdocument
  refine ⟨hrefused given (by decide) (by decide), hrefused filled (by decide) (by decide), ?_⟩
  obtain ⟨hread, hload⟩ := load_eq_addAll (by decide : "Order" ≠ "") (by decide : ∀ d ∈ apart, d.Sound)
  obtain ⟨hiff, hsame, -⟩ := hload _ _ _ hread
  have hadded : Model.addAll ⟨"Order", none, []⟩ apart =
      .ok ⟨"Order", none, [⟨"id", "id", "int", true⟩, ⟨"key", "Key", "text", true⟩]⟩ := by decide
  obtain ⟨s, hs⟩ := hiff.1 ⟨_, hadded⟩
  obtain ⟨n, rfl, -, hproperties⟩ := hsame _ s hadded hs
  exact ⟨_, hs, by simpa using hproperties⟩

end Declaration

end Stencil
