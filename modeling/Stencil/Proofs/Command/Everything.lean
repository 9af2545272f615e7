import Stencil.Command.Generation
import Stencil.Proofs.Generator.Handles
import Stencil.Proofs.Generator.Loading
import Stencil.Proofs.Generator.Requests
import Stencil.Proofs.Registry.Directories
import Stencil.Proofs.Schema.Rereading
/-!
# The mapping of everything

A project without mappings has one that is made of names, although it is meant to have every template and every model.
Names can be repeated: templates of different directories share one, which is why it is listed once and found for all of
them. `Mapping.IsWhole` says which positions come out, and `exists_resolve_mappingOfAll` that they do, whatever the
registry holds, if no two models have the same name. A schema that was accepted has such names, and is taken over as it
is (`loadSchema_of_load`).
-/

namespace Stencil

/-- The mapping has every source once, one name after another in the order of their first registrations and the sources
of one name in that of their own, and every model once in the order of the schema. -/
structure Mapping.IsWhole (m : Mapping) (r : Registry) (s : Schema) : Prop where
  sources : m.sources.Perm (List.range r.sources.length)
  grouped : m.sources.Pairwise (r.Precedes (r.sources.map Source.fileName))
  models : m.models = List.range s.models.length

/-! ## Lists -/

theorem eraseDups_of_nodup {names : List String} (h : names.Nodup) : names.eraseDups = names := by
  induction names with
  | nil => rfl
  | cons name names ih =>
    rw [List.nodup_cons] at h
    have hothers : names.filter (!· == name) = names := by
      rw [List.filter_eq_self]
      rintro a ha
      have hne : a ≠ name := fun heq => h.1 (heq ▸ ha)
      simpa using hne
    rw [List.eraseDups_cons, hothers, ih h.2]

theorem filterMap_getElem?_range {α : Type} (xs : List α) : (List.range xs.length).filterMap (xs[·]?) = xs := by
  induction xs with
  | nil => rfl
  | cons x xs ih =>
    rw [List.length_cons, List.range_succ_eq_map, List.filterMap_cons, List.filterMap_map]
    simpa [Function.comp_def] using ih

/-! ## First occurrences -/

namespace Command

theorem mem_firstOccurrences {names : List String} {name : String} : name ∈ firstOccurrences names ↔ name ∈ names := by
  induction names with
  | nil => rfl
  | cons n names ih =>
    by_cases hname : name = n <;> simp [firstOccurrences, ih, hname]

theorem pairwise_firstOccurrences (names : List String) :
    (firstOccurrences names).Pairwise fun a b => names.idxOf a < names.idxOf b := by
  induction names with
  | nil => exact .nil
  | cons name names ih =>
    have hne : ∀ a ∈ (firstOccurrences names).filter (· != name), name ≠ a := by
      intro a ha
      rw [List.mem_filter, bne_iff_ne] at ha
      exact ha.2.symm
    rw [firstOccurrences, List.pairwise_cons]
    refine ⟨fun a ha => ?_, (ih.filter _).imp_of_mem fun {a b} ha hb hab => ?_⟩
    · rw [List.idxOf_cons_self, List.idxOf_cons_ne _ (hne a ha)]
      exact Nat.succ_pos _
    · rw [List.idxOf_cons_ne _ (hne a ha), List.idxOf_cons_ne _ (hne b hb)]
      exact Nat.succ_lt_succ hab

/-- Nothing is left to be dropped. -/
theorem eraseDups_firstOccurrences (names : List String) :
    (firstOccurrences names).eraseDups = firstOccurrences names := by
  have hnodup : (firstOccurrences names).Nodup :=
    (pairwise_firstOccurrences names).imp (S := (· ≠ ·)) fun hlt heq => Nat.lt_irrefl _ (heq ▸ hlt)
  exact eraseDups_of_nodup hnodup

/-! ## Resolution -/

theorem standsAt_range {s : Schema} (h : s.names.Nodup) :
    List.Forall₂ s.StandsAt (s.models.map Model.name) (List.range s.models.length) := by
  rw [List.forall₂_iff_get]
  refine ⟨by simp, fun i hi _ => ?_⟩
  rw [List.length_map] at hi
  simpa using Schema.position?_eq_some_iff.1 (Schema.position?_of_getElem? h (List.getElem?_eq_getElem hi))

/-- The names of all templates and all models are those of a whole mapping. -/
theorem exists_resolve_mappingOfAll {r : Registry} {s : Schema} (hr : r.sources ≠ []) (hs : s.names.Nodup) :
    ∃ m, Mapping.resolve r s (mappingOfAll r s).templates (mappingOfAll r s).models = .ok m ∧ m.IsWhole r s := by
  let names := r.sources.map Source.fileName
  have hknown : ∀ n ∈ firstOccurrences names, r.Knows n := fun n hn => List.mem_map.1 (mem_firstOccurrences.1 hn)
  have hsome : firstOccurrences names ≠ [] := by
    obtain ⟨x, hx⟩ := List.exists_mem_of_ne_nil _ hr
    exact List.ne_nil_of_mem (mem_firstOccurrences.2 (List.mem_map_of_mem hx))
  have hgrouped := r.precedes_flatMap (pairwise_firstOccurrences names)
  have hresolved := (Mapping.resolve_of_known hknown (standsAt_range hs)).trans (if_neg hsome)
  have hmem (i : Nat) : i ∈ (firstOccurrences names).flatMap r.positions ↔ i ∈ List.range r.sources.length := by
    rw [← eraseDups_firstOccurrences, Mapping.mem_flatMap_positions, List.mem_range]
    constructor
    · rintro ⟨x, hx, -⟩
      exact (List.getElem?_eq_some_iff.1 hx).1
    · intro hi
      exact ⟨_, List.getElem?_eq_getElem hi, mem_firstOccurrences.2 (List.mem_map_of_mem (List.getElem_mem hi))⟩
  rw [eraseDups_firstOccurrences] at hresolved
  refine ⟨_, hresolved, ?_, hgrouped, rfl⟩
  exact (List.perm_ext_iff_of_nodup (Registry.nodup_of_precedes hgrouped) List.nodup_range).2 hmem

end Command

/-! ## What the mapping leads to -/

theorem Mapping.IsWhole.sourcesIn {m : Mapping} {r : Registry} {s : Schema} (h : m.IsWhole r s) :
    (m.sourcesIn r).Perm r.sources := by
  have hall := h.sources.filterMap (r.sources[·]?)
  rwa [filterMap_getElem?_range] at hall

theorem Mapping.IsWhole.modelsIn {m : Mapping} {r : Registry} {s : Schema} (h : m.IsWhole r s) :
    m.modelsIn s = s.models := by
  rw [Mapping.modelsIn, h.models, filterMap_getElem?_range]

/-! ## An accepted schema -/

theorem Model.withLocalNames_normalForm (m : Model) : m.normalForm.withLocalNames = m.normalForm := by
  simp only [withLocalNames, normalForm, List.map_map, Function.comp_def,
    Property.withLocalName_withoutMarker, Property.withLocalName_withLocalName]

theorem Schema.nodup_names_of_load {document : String} {incoming : Schema} (h : load document = .ok incoming) :
    incoming.names.Nodup := by
  obtain ⟨s, -, haccept⟩ := load_eq_ok h
  exact (accept_eq_ok_iff.1 (accept_of_accept haccept)).1.2.1

namespace Generator

variable {ρ : Type}

theorem exists_load_of_readSchema {tree : FileTree} {current : Place} {path : String} {incoming : Schema}
    (h : readSchema tree current path = .ok incoming) : ∃ document, Schema.load document = .ok incoming := by
  unfold readSchema at h
  split at h
  · cases h
  · next document _ => exact ⟨document, h⟩

/-- Where there is no schema yet, an accepted one is taken over as it is. -/
theorem loadSchema_of_load {document : String} {incoming : Schema} (h : Schema.load document = .ok incoming)
    {g : Generator ρ} (hg : g.schema = {}) : loadSchema incoming g = (.ok (), { g with schema := incoming }) := by
  obtain ⟨s, -, haccept⟩ := Schema.load_eq_ok h
  obtain ⟨⟨hcomplete, hnames, -⟩, -⟩ := Schema.accept_eq_ok_iff.1 (Schema.accept_of_accept haccept)
  obtain ⟨-, rfl⟩ := Schema.accept_eq_ok_iff.1 haccept
  have hvalid : s.normalForm.validate = .ok () := by
    rcases s.normalForm.validate_cases with ⟨hvalid, -⟩ | ⟨before, m, after, v, hmodels, -, hlacks, -⟩
    · exact hvalid
    · exact absurd (hcomplete m (hmodels ▸ List.mem_append_right _ List.mem_cons_self)) hlacks.not_complete
  have hfresh : Fresh g.schema.names s.normalForm.models := by
    rw [hg]
    exact ⟨fun _ _ => List.not_mem_nil, hnames⟩
  have hsame : s.normalForm.models.map Model.withLocalNames = s.normalForm.models := by
    simp only [Schema.normalForm, List.map_map, Function.comp_def, Model.withLocalNames_normalForm]
  rcases loadSchema_of_valid hvalid g with ⟨-, hloaded⟩ | ⟨m, hfirst, -⟩
  · have hproject : (if s.normalForm.project = "" then "" else s.normalForm.project) = s.normalForm.project :=
      ite_eq_right_iff.2 Eq.symm
    rw [hloaded, hg, hsame, hproject, List.nil_append]
  · exact absurd hfresh hfirst.not_fresh

end Generator

namespace Command

variable {tree : FileTree} {current : Place} {s : Settings} {incoming : Schema}

/-- The generator that a command begins with. -/
def Settings.fresh (s : Settings) : State := Generator.start s.config {}

/-- The schema is that of the document which the settings name, or an empty one if they name none. -/
def Settings.Reads (s : Settings) (tree : FileTree) (current : Place) (incoming : Schema) : Prop :=
  match s.schema with
  | some path => Generator.readSchema tree current path = .ok incoming
  | none => incoming = {}

theorem Settings.Reads.nodup_names (h : s.Reads tree current incoming) : incoming.names.Nodup := by
  unfold Reads at h
  split at h
  · obtain ⟨document, hload⟩ := Generator.exists_load_of_readSchema h
    exact Schema.nodup_names_of_load hload
  · subst h
    exact List.nodup_nil

/-- The schema and the templates of the settings are there when the mapping is made. -/
theorem prepare_eq (h : s.Reads tree current incoming) {directory : String} {r : Registry}
    (htemplates : s.templates = some directory) (hadded : Registry.addDirectory {} tree current directory 0 = .ok r)
    (hmappings : s.mappings = []) :
    prepare tree current s =
      addMapping { s.fresh with schema := incoming, registry := r } (mappingOfAll r incoming) := by
  have hregistered : perform (Generator.addTemplateDirectory tree current directory)
      { s.fresh with schema := incoming } = .ok { s.fresh with schema := incoming, registry := r } := by
    have hchange : ({ s.fresh with schema := incoming } : State).registry.addDirectory tree current directory 0 =
        .ok r := hadded
    simp only [perform, Generator.addTemplateDirectory, Generator.changeRegistry, hchange]
  cases hpath : s.schema with
  | some path =>
    simp only [Settings.Reads, hpath] at h
    obtain ⟨document, hload⟩ := Generator.exists_load_of_readSchema h
    have hloaded : perform (Generator.loadSchemaFile tree current path) s.fresh =
        .ok { s.fresh with schema := incoming } := by
      simp only [perform, Generator.loadSchemaFile, h, Generator.loadSchema_of_load hload (g := s.fresh) rfl]
    rw [Settings.fresh] at hloaded hregistered ⊢
    simp [prepare, hpath, hloaded, htemplates, hregistered, hmappings, bind, Except.bind]
  | none =>
    simp only [Settings.Reads, hpath] at h
    subst h
    rw [Settings.fresh] at hregistered ⊢
    have hstart : ({ Generator.start s.config {} with schema := {} } : State) = Generator.start s.config {} := rfl
    rw [hstart] at hregistered
    simp [prepare, hpath, htemplates, hregistered, hmappings, bind, Except.bind]

/-- Without mappings the command makes one, of every template and every model. Every template is one job, with all
models in its context, and where there are files in the end it has been rendered once. -/
theorem prepare_maps_everything {directory : String} {r : Registry} (hmappings : s.mappings = [])
    (hschema : s.Reads tree current incoming) (htemplates : s.templates = some directory)
    (hadded : Registry.addDirectory {} tree current directory 0 = .ok r) (hr : r.sources ≠ []) :
    ∃ m g, m.IsWhole r incoming ∧ prepare tree current s = .ok g ∧
      g = { s.fresh with schema := incoming, registry := r, mappings := [m] } ∧
      (g.jobs.map Prod.fst).Perm r.sources ∧ (∀ job ∈ g.jobs, job.2.models = incoming.models) ∧
      ∀ files, generate tree current s = .ok files →
        (g.run.calls.filter (·.request = .render)).Perm (r.sources.filterMap Source.rendering?) := by
  obtain ⟨m, hresolved, hwhole⟩ := exists_resolve_mappingOfAll hr hschema.nodup_names
  let g : State := { s.fresh with schema := incoming, registry := r, mappings := [m] }
  have hprepared : prepare tree current s = .ok g := by
    rw [prepare_eq hschema htemplates hadded hmappings]
    simp only [addMapping, perform, Generator.addMapping, hresolved]
    rfl
  have hjobs : g.jobs = (m.sourcesIn r).map (·, g.contextOf m) := by
    simp only [Generator.jobs, g, List.flatMap_cons, List.flatMap_nil, List.append_nil]
  have hsources : (g.jobs.map Prod.fst).Perm r.sources := by
    rw [hjobs, List.map_map, Function.comp_def, List.map_id']
    exact hwhole.sourcesIn
  refine ⟨m, g, hwhole, hprepared, rfl, hsources, fun job hjob => ?_, fun files hfiles => ?_⟩
  · rw [hjobs] at hjob
    obtain ⟨x, -, rfl⟩ := List.mem_map.1 hjob
    exact hwhole.modelsIn
  · have hrun : g.run.outcome = .ok files := by
      simp only [generate, hprepared, bind, Except.bind, Generator.process] at hfiles
      split at hfiles
      · next hprocess =>
        cases hfiles
        exact congrArg Prod.fst hprocess
      · cases hfiles
    rw [Generator.renderings_run hrun]
    have hrenderings := hsources.filterMap Source.rendering?
    rwa [List.filterMap_map] at hrenderings

/-- Two directories with a template of one name and an opaque file between them, and two models. -/
theorem prepare_maps_everything_twice :
    let document := "[\"Shop\",[[\"Order\"],[\"User\"]]]"
    let tree := FileTree.ofEntries [(["set", "c", "page.lt"], .file (Bytes.ofText "C")), (["set", "b.png"], .file [1]),
      (["set", "a", "page.lt"], .file (Bytes.ofText "A")), (["schema.json"], .file (Bytes.ofText document))]
    let s : Settings := ⟨{}, some "schema.json", some "set", none, []⟩
    let page : Source := ⟨"page.lt", "a", "1.0", .template "A", 0⟩
    let r : Registry := ⟨[page, ⟨"b.png", "", "1.0", .opaqueFile (armor [1]), 0⟩,
      { page with directory := "c", body := .template "C" }]⟩
    let incoming : Schema := ⟨"Shop", [{ name := "Order" }, { name := "User" }]⟩
    s.Reads tree [] incoming ∧ Registry.addDirectory {} tree [] "set" 0 = .ok r ∧
      ∃ g, prepare tree [] s = .ok g ∧ g.mappings = [⟨[0, 2, 1], [0, 1]⟩] ∧
        generate tree [] s = .ok [⟨"b.png", "", Bytes.ofText (armor [1])⟩] ∧
        (g.run.calls.filter (·.request = .render)).Perm [⟨0, .render, "a/page.lt"⟩, ⟨0, .render, "c/page.lt"⟩] := by
  intro document tree s page r incoming
  have hread : Generator.readSchema tree [] "schema.json" = .ok incoming := by decide +kernel
  have hlisted : tree.files = [(["schema.json"], Bytes.ofText document), (["set", "a", "page.lt"], Bytes.ofText "A"),
      (["set", "b.png"], [1]), (["set", "c", "page.lt"], Bytes.ofText "C")] := List.mergeSort_of_pairwise (by decide)
  have hbelow : tree.filesBelow ["set"] = [(["a", "page.lt"], Bytes.ofText "A"), (["b.png"], [1]),
      (["c", "page.lt"], Bytes.ofText "C")] := by
    rw [FileTree.filesBelow_eq, hlisted]
    decide
  have hwalked : Registry.walk? tree [] "set" = some [⟨"page.lt", "a", Bytes.ofText "A"⟩, ⟨"b.png", "", [1]⟩,
      ⟨"page.lt", "c", Bytes.ofText "C"⟩] := by
    have hroot : tree.resolve [] "set" = some ["set"] := by decide
    have hdirectory : tree.get? ["set"] = some .directory := by decide
    simp only [Registry.walk?, hroot, hdirectory, hbelow]
    decide
  have hadded : Registry.addDirectory {} tree [] "set" 0 = .ok r := by
    rw [Registry.addDirectory, hwalked]
    decide +kernel
  obtain ⟨m, g, hwhole, hprepared, hg, -, -, hrendered⟩ :=
    prepare_maps_everything (s := s) rfl hread rfl hadded (by decide)
  have hgrouped : [0, 2, 1].Pairwise (r.Precedes (r.sources.map Source.fileName)) := by
    have hsame : r.Precedes (r.sources.map Source.fileName) 0 2 := ⟨_, _, rfl, rfl, .inr ⟨rfl, by decide⟩⟩
    have hfirst : r.Precedes (r.sources.map Source.fileName) 0 1 := ⟨_, _, rfl, rfl, .inl (by decide)⟩
    have hlast : r.Precedes (r.sources.map Source.fileName) 2 1 := ⟨_, _, rfl, rfl, .inl (by decide)⟩
    simp [hsame, hfirst, hlast]
  have hmem (i : Nat) : i ∈ m.sources ↔ i ∈ [0, 2, 1] := by
    have hperm : [0, 2, 1].Perm (List.range r.sources.length) := by decide
    rw [hwhole.sources.mem_iff, hperm.mem_iff]
  have hsources : m.sources = [0, 2, 1] := Registry.eq_of_precedes hwhole.grouped hgrouped hmem
  have hmodels : m.models = [0, 1] := hwhole.models
  have hmapping : m = ⟨[0, 2, 1], [0, 1]⟩ := by rw [← hsources, ← hmodels]
  have hfiles : generate tree [] s = .ok [⟨"b.png", "", Bytes.ofText (armor [1])⟩] := by
    simp only [generate, hprepared, bind, Except.bind, hg, hmapping]
    decide +kernel
  refine ⟨hread, hadded, g, hprepared, ?_, hfiles, hrendered _ hfiles⟩
  rw [hg, hmapping]

end Command

end Stencil
