import Mathlib.Data.List.Forall2
import Mathlib.Data.List.Nodup
import Stencil.Generator.Process
/-!
# What a registry takes in

A source is made from a file: its body is the file's text if the name is that of a template, and the
armored contents otherwise. `Registry.Grows` sums up the operations of a registry: they append sources
that were made from files and are bound to one renderer, and leave those that are there where they are.
So the sources of a generator are `Bound`, which is all that a run needs of them. They also keep the registry
`Distinct`: no two sources stand at the same place.
-/

namespace Stencil

/-! ## Sources from files -/

theorem SourceBody.ofFile_eq_ok_iff {fileName : String} {contents : Bytes} {body : SourceBody} :
    SourceBody.ofFile fileName contents = .ok body ↔
      (isTemplateFileName fileName = true ∧ ∃ text, contents.toText = .ok text ∧ body = .template text) ∨
      (isTemplateFileName fileName = false ∧ body = .opaqueFile (armor contents)) := by
  unfold SourceBody.ofFile
  cases ht : isTemplateFileName fileName with
  | false => simp [eq_comm]
  | true =>
    cases hc : contents.toText with
    | error fault => simp
    | ok text => simp [eq_comm]

namespace Source

/-- The source is what was made from some file. -/
def FromFile (s : Source) : Prop :=
  ∃ contents, ofFile s.fileName contents s.version s.directory s.renderer = .ok s

theorem ofFile_eq_ok_iff {fileName version directory : String} {contents : Bytes} {renderer : Nat}
    {s : Source} : ofFile fileName contents version directory renderer = .ok s ↔
      fileName ≠ "" ∧ version ≠ "" ∧ ∃ body, SourceBody.ofFile fileName contents = .ok body ∧
        s = ⟨fileName, directory, version, body, renderer⟩ := by
  unfold ofFile
  by_cases hf : fileName = ""
  · simp [hf]
  by_cases hv : version = ""
  · simp [hf, hv]
  cases hb : SourceBody.ofFile fileName contents with
  | error e => simp [hf, hv, Except.map]
  | ok body => simp [hf, hv, Except.map, @eq_comm _ s]

theorem fromFile_of_ofFile {fileName version directory : String} {contents : Bytes} {renderer : Nat}
    {s : Source} (h : ofFile fileName contents version directory renderer = .ok s) :
    s.FromFile ∧ s.renderer = renderer := by
  obtain ⟨-, -, body, -, rfl⟩ := ofFile_eq_ok_iff.1 h
  exact ⟨⟨contents, h⟩, rfl⟩

theorem FromFile.template {s : Source} (h : s.FromFile) (ht : isTemplateFileName s.fileName = true) :
    ∃ text, s.body = .template text := by
  obtain ⟨contents, h⟩ := h
  obtain ⟨-, -, body, hbody, hs⟩ := ofFile_eq_ok_iff.1 h
  have hb : s.body = body := congrArg Source.body hs
  rcases SourceBody.ofFile_eq_ok_iff.1 hbody with ⟨-, text, -, rfl⟩ | ⟨hf, -⟩
  · exact ⟨text, hb⟩
  · exact absurd (ht.symm.trans hf) (by decide)

theorem body_of_ofFile {fileName version directory : String} {contents : Bytes} {renderer : Nat} {s : Source}
    (ht : isTemplateFileName fileName = false) (h : ofFile fileName contents version directory renderer = .ok s) :
    s.body = .opaqueFile (armor contents) := by
  obtain ⟨-, -, body, hbody, rfl⟩ := ofFile_eq_ok_iff.1 h
  rcases SourceBody.ofFile_eq_ok_iff.1 hbody with ⟨hf, -⟩ | ⟨-, rfl⟩
  · exact absurd (hf.symm.trans ht) (by decide)
  · rfl

theorem FromFile.opaqueFile {s : Source} (h : s.FromFile) (ht : isTemplateFileName s.fileName = false) :
    ∃ contents, s.body = .opaqueFile (armor contents) := by
  obtain ⟨contents, h⟩ := h
  exact ⟨contents, body_of_ofFile ht h⟩

end Source

/-! ## Growth -/

namespace Registry

/-- Sources that were made from files and are bound to the renderer are appended. -/
def Grows (r r' : Registry) (renderer : Nat) : Prop :=
  ∃ added, r'.sources = r.sources ++ added ∧ ∀ s ∈ added, s.FromFile ∧ s.renderer = renderer

theorem add_eq_ok_iff {r r' : Registry} {fileName version directory : String} {contents : Bytes}
    {renderer : Nat} : r.add fileName contents version directory renderer = .ok r' ↔
      ∃ s, Source.ofFile fileName contents version directory renderer = .ok s ∧
        r.source? fileName directory = none ∧ r' = ⟨r.sources ++ [s]⟩ := by
  unfold add
  cases hs : Source.ofFile fileName contents version directory renderer with
  | error e => simp
  | ok s =>
    cases hr : r.source? fileName directory with
    | some s' => simp
    | none => simp [eq_comm]

theorem grows_add {r r' : Registry} {fileName version directory : String} {contents : Bytes}
    {renderer : Nat} (h : r.add fileName contents version directory renderer = .ok r') :
    r.Grows r' renderer := by
  obtain ⟨s, hs, -, rfl⟩ := add_eq_ok_iff.1 h
  refine ⟨[s], rfl, fun s' hs' => ?_⟩
  rw [List.mem_singleton] at hs'
  subst hs'
  exact Source.fromFile_of_ofFile hs

theorem grows_addFile {r r' : Registry} {tree : FileTree} {current : Place} {path : String}
    {renderer : Nat} (h : r.addFile tree current path renderer = .ok r') : r.Grows r' renderer := by
  unfold addFile at h
  split at h
  · cases h
  · split at h
    · cases h
    · exact grows_add h

/-- The sources that are gathered follow the pending ones, one for each file. -/
theorem gather_eq_ok {r : Registry} {renderer : Nat} {files : List FoundFile}
    {pending all : List Source} (h : r.gather renderer pending files = .ok all) :
    ∃ added, all = pending ++ added ∧ List.Forall₂
      (fun f s => Source.ofFile f.fileName f.contents formatVersion f.directory renderer = .ok s) files added := by
  induction files generalizing pending with
  | nil =>
    cases h
    exact ⟨[], by simp, .nil⟩
  | cons f files ih =>
    unfold gather at h
    split at h
    · cases h
    · split at h
      · cases h
      · next s hs =>
        obtain ⟨added, rfl, hadded⟩ := ih h
        exact ⟨s :: added, by simp, .cons hs hadded⟩

theorem addDirectory_eq_ok {r r' : Registry} {tree : FileTree} {current : Place} {path : String}
    {renderer : Nat} (h : r.addDirectory tree current path renderer = .ok r') :
    ∃ files added, walk? tree current path = some files ∧ r.gather renderer [] files = .ok added ∧
      r' = ⟨r.sources ++ added⟩ := by
  unfold addDirectory at h
  split at h
  · cases h
  · next files hfiles =>
    cases hg : r.gather renderer [] files with
    | error e =>
      rw [hg] at h
      cases h
    | ok added =>
      rw [hg] at h
      cases h
      exact ⟨files, added, hfiles, hg, rfl⟩

theorem grows_addDirectory {r r' : Registry} {tree : FileTree} {current : Place} {path : String}
    {renderer : Nat} (h : r.addDirectory tree current path renderer = .ok r') : r.Grows r' renderer := by
  obtain ⟨files, _, -, hg, rfl⟩ := addDirectory_eq_ok h
  obtain ⟨_, rfl, hadded⟩ := gather_eq_ok hg
  exact ⟨_, rfl, ((List.forall₂_and_left _ _).1
    (hadded.flip.imp fun s f hf => ⟨Source.fromFile_of_ofFile hf, hf⟩)).1⟩

end Registry

/-! ## Places -/

/-- Where a source is registered. -/
def Source.place (s : Source) : String × String := (s.directory, s.fileName)

theorem Source.isAt_iff {s : Source} {fileName directory : String} :
    s.isAt fileName directory = true ↔ s.place = (directory, fileName) := by
  simp [isAt, place, and_comm]

theorem Source.place_of_ofFile {fileName version directory : String} {contents : Bytes} {renderer : Nat}
    {s : Source} (h : ofFile fileName contents version directory renderer = .ok s) :
    s.place = (directory, fileName) := by
  obtain ⟨-, -, body, -, rfl⟩ := ofFile_eq_ok_iff.1 h
  rfl

namespace Registry

/-- No two sources stand at the same place. -/
def Distinct (r : Registry) : Prop := (r.sources.map Source.place).Nodup

theorem source?_eq_none_iff {r : Registry} {fileName directory : String} :
    r.source? fileName directory = none ↔ (directory, fileName) ∉ r.sources.map Source.place := by
  rw [source?, List.find?_eq_none, List.mem_map, not_exists]
  exact forall_congr' fun s => by rw [Source.isAt_iff, not_and]

theorem nodup_place_append_singleton {sources : List Source} {s : Source}
    (hd : (sources.map Source.place).Nodup) (hs : s.place ∉ sources.map Source.place) :
    ((sources ++ [s]).map Source.place).Nodup := by
  rw [List.map_append, List.nodup_append]
  refine ⟨hd, List.nodup_singleton _, fun p hp q hq => ?_⟩
  rw [List.map_singleton, List.mem_singleton] at hq
  rintro rfl
  exact hs (hq ▸ hp)

theorem distinct_add {r r' : Registry} {fileName version directory : String} {contents : Bytes}
    {renderer : Nat} (h : r.add fileName contents version directory renderer = .ok r')
    (hd : r.Distinct) : r'.Distinct := by
  obtain ⟨s, hs, hnone, rfl⟩ := add_eq_ok_iff.1 h
  refine nodup_place_append_singleton hd ?_
  rw [Source.place_of_ofFile hs]
  exact source?_eq_none_iff.1 hnone

theorem distinct_addFile {r r' : Registry} {tree : FileTree} {current : Place} {path : String}
    {renderer : Nat} (h : r.addFile tree current path renderer = .ok r') (hd : r.Distinct) : r'.Distinct := by
  unfold addFile at h
  split at h
  · cases h
  · split at h
    · cases h
    · exact distinct_add h hd

theorem distinct_gather {r : Registry} {renderer : Nat} {files : List FoundFile}
    {pending all : List Source} (h : r.gather renderer pending files = .ok all)
    (hd : ((r.sources ++ pending).map Source.place).Nodup) :
    ((r.sources ++ all).map Source.place).Nodup := by
  induction files generalizing pending with
  | nil =>
    cases h
    exact hd
  | cons f files ih =>
    unfold gather at h
    split at h
    · cases h
    · next hnew =>
      split at h
      · cases h
      · next s hs =>
        refine ih h ?_
        rw [← List.append_assoc]
        refine nodup_place_append_singleton hd ?_
        -- the place of the file is taken neither in the registry nor by a file before it
        rw [Bool.or_eq_true, not_or, Option.isSome_iff_ne_none, not_not, source?_eq_none_iff] at hnew
        rw [Source.place_of_ofFile hs, List.map_append, List.mem_append, not_or]
        refine ⟨hnew.1, fun hmem => hnew.2 ?_⟩
        obtain ⟨s', hs', hplace⟩ := List.mem_map.1 hmem
        exact List.any_eq_true.2 ⟨s', hs', Source.isAt_iff.2 hplace⟩

theorem distinct_addDirectory {r r' : Registry} {tree : FileTree} {current : Place} {path : String}
    {renderer : Nat} (h : r.addDirectory tree current path renderer = .ok r') (hd : r.Distinct) :
    r'.Distinct := by
  obtain ⟨files, added, -, hg, rfl⟩ := addDirectory_eq_ok h
  exact distinct_gather hg (by rwa [List.append_nil])

end Registry

/-- Every source of the generator was made from a file and is bound to one of its renderers. -/
def Generator.Bound {ρ : Type} (g : Generator ρ) : Prop :=
  ∀ s ∈ g.registry.sources, s.FromFile ∧ s.renderer < g.renderers.length

end Stencil
