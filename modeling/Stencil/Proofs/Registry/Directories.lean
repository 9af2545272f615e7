import Stencil.Proofs.Bytes.Order
import Stencil.Proofs.Files.Listing
import Stencil.Proofs.Registry.Submissions
/-!
# Adding a whole directory

The files of a template set are those below its root, less metadata and what lies in folders of version control, and a
registry takes them in one order: that of the names on the way to them, compared octet by octet (`Enumerates`). Two of
them never have the same name and directory, as folders can be told apart when they are joined, so a file is only
refused for what is registered already or for its contents. `gather_cons` is what happens to one file, and
`gather_cases` goes through all of them.
-/

namespace Stencil.Registry

/-! ## Template sets -/

/-- A file below the root of a template set, with the folders on the way to it. -/
structure SetFile where
  folders : List String
  name : String
  contents : Bytes
deriving Repr, DecidableEq

namespace SetFile

/-- The names on the way to the file. -/
def below (f : SetFile) : Place := f.folders ++ [f.name]

def directory (f : SetFile) : String := "/".intercalate f.folders

/-- The file as a registry finds it. -/
def found (f : SetFile) : FoundFile := ⟨f.name, f.directory, f.contents⟩

/-- The file as it is handed to a registry. -/
def submission (renderer : Nat) (f : SetFile) : Submission :=
  ⟨f.name, f.contents, formatVersion, f.directory, renderer⟩

/-- The file is part of the template set at the root. -/
def BelongsTo (f : SetFile) (tree : FileTree) (root : Place) : Prop :=
  tree.file? (root ++ f.below) = some f.contents ∧ f.name ≠ ".DS_Store" ∧
    ∀ dir ∈ f.folders, dir ≠ ".git" ∧ dir ≠ ".hg"

end SetFile

/-- The files are all those of the template set, in the order of their names on the way, octet by octet. -/
structure Enumerates (files : List SetFile) (tree : FileTree) (root : Place) : Prop where
  mem_iff : ∀ f, f ∈ files ↔ f.BelongsTo tree root
  sorted : files.Pairwise fun f g => f.below.map Bytes.ofText < g.below.map Bytes.ofText

/-- What a registry refuses a file of a template set for. -/
inductive Refuses (r : Registry) (f : SetFile) : Error → Prop where
  | taken {s : Source} (hs : s ∈ r.sources) (hname : s.fileName = f.name) (hdirectory : s.directory = f.directory) :
      Refuses r f (.duplicate .template f.name)
  | notText {fault : Bytes.Utf8Fault} (hfree : ∀ s ∈ r.sources, s.fileName = f.name → s.directory ≠ f.directory)
      (hsuffix : ".lt".toList <:+ (Text.lower f.name).toList) (hcontents : f.contents.toText = .error fault) :
      Refuses r f (.parse f.name (.notUtf8 fault))

/-! ## Enumerating a template set -/

/-- The file at the names below the root, unless it is skipped. -/
def setFile? : Place × Bytes → Option SetFile
  | (below, contents) =>
    match below.getLast? with
    | none => none
    | some name =>
      if below.dropLast.any skippedDirectories.contains || skippedFiles.contains name then none
      else some ⟨below.dropLast, name, contents⟩

theorem foundFile?_eq (e : Place × Bytes) : foundFile? e = (setFile? e).map SetFile.found := by
  obtain ⟨below, contents⟩ := e
  simp only [foundFile?, setFile?]
  cases below.getLast? with
  | none => rfl
  | some name =>
    simp only
    split <;> rfl

theorem setFile?_eq_some_iff {e : Place × Bytes} {f : SetFile} :
    setFile? e = some f ↔ e = (f.below, f.contents) ∧ f.name ≠ ".DS_Store" ∧
      ∀ dir ∈ f.folders, dir ≠ ".git" ∧ dir ≠ ".hg" := by
  obtain ⟨below, contents⟩ := e
  obtain ⟨folders, name, contents'⟩ := f
  rcases List.eq_nil_or_concat' below with rfl | ⟨init, last, rfl⟩
  · simp [setFile?, SetFile.below]
  · have hskip : (init.any skippedDirectories.contains || skippedFiles.contains last) = false ↔
        last ≠ ".DS_Store" ∧ ∀ dir ∈ init, dir ≠ ".git" ∧ dir ≠ ".hg" := by
      simp [skippedDirectories, skippedFiles, and_comm]
    simp only [setFile?, List.getLast?_concat, List.dropLast_concat, SetFile.below]
    split
    · next hskipped =>
      refine ⟨nofun, ?_⟩
      rintro ⟨heq, hkept⟩
      obtain ⟨rfl, rfl⟩ := List.append_singleton_inj.1 (Prod.mk.inj heq).1
      exact absurd (hskipped.symm.trans (hskip.2 hkept)) (by decide)
    · next hkept =>
      constructor
      · intro h
        cases h
        exact ⟨rfl, hskip.1 (by simpa using hkept)⟩
      · rintro ⟨heq, -⟩
        obtain ⟨hbelow, rfl⟩ := Prod.mk.inj heq
        obtain ⟨rfl, rfl⟩ := List.append_singleton_inj.1 hbelow
        rfl

/-- A directory of a proper tree is enumerated when it is walked. -/
theorem enumerates_walked {tree : FileTree} (h : tree.Proper) (root : Place) :
    Enumerates ((tree.filesBelow root).filterMap setFile?) tree root := by
  constructor
  · intro f
    rw [List.mem_filterMap]
    constructor
    · rintro ⟨e, hmem, hf⟩
      obtain ⟨rfl, hkept⟩ := setFile?_eq_some_iff.1 hf
      exact ⟨((FileTree.mem_filesBelow_iff h).1 hmem).2, hkept⟩
    · rintro ⟨hfile, hkept⟩
      have hne : f.below ≠ [] := by simp [SetFile.below]
      exact ⟨_, (FileTree.mem_filesBelow_iff h).2 ⟨hne, hfile⟩, setFile?_eq_some_iff.2 ⟨rfl, hkept⟩⟩
  · refine (FileTree.pairwise_filesBelow h root).filterMap _ ?_
    rintro e e' hlt f hf f' hf'
    obtain ⟨rfl, -⟩ := setFile?_eq_some_iff.1 hf
    obtain ⟨rfl, -⟩ := setFile?_eq_some_iff.1 hf'
    exact List.map_lt (fun _ _ => Bytes.ofText_lt_ofText) hlt

theorem Enumerates.nodup {files : List SetFile} {tree : FileTree} {root : Place} (h : Enumerates files tree root) :
    files.Nodup := by
  refine h.sorted.imp ?_
  rintro f _ hlt rfl
  exact List.lt_irrefl _ hlt

/-- A template set is enumerated in one way only. -/
theorem Enumerates.unique {files files' : List SetFile} {tree : FileTree} {root : Place}
    (h : Enumerates files tree root) (h' : Enumerates files' tree root) : files = files' := by
  have hperm : files.Perm files' :=
    (List.perm_ext_iff_of_nodup h.nodup h'.nodup).2 fun f => (h.mem_iff f).trans (h'.mem_iff f).symm
  refine hperm.eq_of_pairwise ?_ h.sorted h'.sorted
  exact fun f g _ _ hfg hgf => absurd hgf (List.lt_asymm hfg)

theorem SetFile.BelongsTo.plain {f : SetFile} {tree : FileTree} {root : Place} (h : tree.Proper)
    (hf : f.BelongsTo tree root) : ∀ name ∈ f.below, Path.Plain name := by
  have hne : root ++ f.below ≠ [] := by simp [SetFile.below]
  have hmem := (h.get?_eq_some_iff hne).1 (FileTree.file?_eq_some_iff.1 hf.1)
  exact fun name hname => h.plain _ hmem name (List.mem_append_right _ hname)

/-- Different files of a template set have different names or directories. -/
theorem Enumerates.pairwise_place {files : List SetFile} {tree : FileTree} {root : Place}
    (hfiles : Enumerates files tree root) (h : tree.Proper) :
    files.Pairwise fun f g => (f.directory, f.name) ≠ (g.directory, g.name) := by
  refine hfiles.sorted.imp_of_mem fun {f g} hf hg hlt heq => ?_
  have hf := ((hfiles.mem_iff f).1 hf).plain h
  have hg := ((hfiles.mem_iff g).1 hg).plain h
  obtain ⟨hdirectory, hname⟩ := Prod.mk.inj heq
  have hfolders : f.folders = g.folders :=
    Path.intercalate_inj (fun n hn => hf n (List.mem_append_left _ hn)) (fun n hn => hg n (List.mem_append_left _ hn))
      hdirectory
  rw [SetFile.below, SetFile.below, hfolders, hname] at hlt
  exact List.lt_irrefl _ hlt

/-! ## Taking the files in -/

/-- A source is made of a file, unless it is a template and not text. -/
theorem SetFile.ofFile_cases {f : SetFile} (hname : f.name ≠ "") (renderer : Nat) :
    (∃ s, Source.ofFile f.name f.contents formatVersion f.directory renderer = .ok s) ∨
      ∃ fault, isTemplateFileName f.name = true ∧ f.contents.toText = .error fault ∧
        Source.ofFile f.name f.contents formatVersion f.directory renderer =
          .error (.parse f.name (.notUtf8 fault)) := by
  have hversion : formatVersion ≠ "" := by decide
  cases htemplate : isTemplateFileName f.name with
  | false => simp [Source.ofFile, SourceBody.ofFile, hname, hversion, htemplate, Except.map]
  | true =>
    cases hcontents : f.contents.toText with
    | ok text => simp [Source.ofFile, SourceBody.ofFile, hname, hversion, htemplate, hcontents, Except.map]
    | error fault => simp [Source.ofFile, SourceBody.ofFile, hname, hversion, htemplate, hcontents, Except.map]

/-- A file of a template set whose place is not taken by one before it is refused, or a source is made of it. -/
theorem gather_cons (r : Registry) (renderer : Nat) {f : SetFile} {pending : List Source} (hname : f.name ≠ "")
    (hfresh : (f.directory, f.name) ∉ pending.map Source.place) :
    (∃ e, r.Refuses f e ∧ ∀ rest, r.gather renderer pending (f.found :: rest) = .error e) ∨
      (∀ e, ¬ r.Refuses f e) ∧ ∃ s, (f.submission renderer).Makes s ∧ s.place = (f.directory, f.name) ∧
        ∀ rest, r.gather renderer pending (f.found :: rest) = r.gather renderer (pending ++ [s]) rest := by
  have hpending : pending.any (·.isAt f.name f.directory) = false := by
    rw [List.any_eq_false]
    intro s hs hat
    exact hfresh (List.mem_map.2 ⟨s, hs, Source.isAt_iff.1 hat⟩)
  by_cases htaken : (f.directory, f.name) ∈ r.sources.map Source.place
  · obtain ⟨s, hs, hplace⟩ := List.mem_map.1 htaken
    obtain ⟨hdirectory, hname⟩ := Prod.mk.inj hplace
    have hsource : (r.source? f.name f.directory).isSome = true :=
      Option.isSome_iff_ne_none.2 fun hnone => source?_eq_none_iff.1 hnone htaken
    refine .inl ⟨_, .taken hs hname hdirectory, fun rest => ?_⟩
    simp [gather, SetFile.found, hsource]
  · have hsource := source?_eq_none_iff.2 htaken
    have hfree : ∀ s ∈ r.sources, s.fileName = f.name → s.directory ≠ f.directory := by
      intro s hs hname hdirectory
      exact htaken (List.mem_map.2 ⟨s, hs, by rw [Source.place, hname, hdirectory]⟩)
    rcases SetFile.ofFile_cases hname renderer with ⟨s, hs⟩ | ⟨fault, htemplate, hfault, herror⟩
    · refine .inr ⟨?_, s, Submission.makes_of_ofFile hs, Source.place_of_ofFile hs, fun rest => ?_⟩
      · rintro _ (⟨hs', hname', hdirectory'⟩ | ⟨-, hsuffix, hcontents⟩)
        · exact hfree _ hs' hname' hdirectory'
        · obtain ⟨-, -, body, hbody, -⟩ := Source.ofFile_eq_ok_iff.1 hs
          rcases SourceBody.ofFile_eq_ok_iff.1 hbody with ⟨-, text, htext, -⟩ | ⟨hother, -⟩
          · cases hcontents.symm.trans htext
          · rw [(isTemplateFileName_iff_lower f.name).2 hsuffix] at hother
            cases hother
      · simp [gather, SetFile.found, hsource, hpending, hs]
    · refine .inl ⟨_, .notText hfree ((isTemplateFileName_iff_lower f.name).1 htemplate) hfault, fun rest => ?_⟩
      simp [gather, SetFile.found, hsource, hpending, herror]

/-- The files of a template set are taken in one after another, up to the first one that is refused. -/
theorem gather_cases (r : Registry) (renderer : Nat) {files : List SetFile} {pending : List Source}
    (hnames : ∀ f ∈ files, f.name ≠ "") (hfresh : ∀ f ∈ files, (f.directory, f.name) ∉ pending.map Source.place)
    (hplaces : files.Pairwise fun f g => (f.directory, f.name) ≠ (g.directory, g.name)) :
    (∃ added, r.gather renderer pending (files.map SetFile.found) = .ok (pending ++ added) ∧
        List.Forall₂ Submission.Makes (files.map (SetFile.submission renderer)) added ∧
        ∀ f ∈ files, ∀ e, ¬ r.Refuses f e) ∨
      ∃ before f after e, files = before ++ f :: after ∧ (∀ g ∈ before, ∀ e, ¬ r.Refuses g e) ∧ r.Refuses f e ∧
        r.gather renderer pending (files.map SetFile.found) = .error e := by
  induction files generalizing pending with
  | nil => exact .inl ⟨[], by simp [gather], .nil, nofun⟩
  | cons f files ih =>
    rw [List.pairwise_cons] at hplaces
    rw [List.map_cons]
    rcases gather_cons r renderer (hnames f List.mem_cons_self) (hfresh f List.mem_cons_self) with
      ⟨e, he, hgather⟩ | ⟨hfree, s, hs, hplace, hgather⟩
    · exact .inr ⟨[], f, files, e, rfl, nofun, he, hgather _⟩
    · rw [hgather]
      have hfresh' : ∀ g ∈ files, (g.directory, g.name) ∉ (pending ++ [s]).map Source.place := by
        intro g hg
        rw [List.map_append, List.map_singleton, List.mem_append, List.mem_singleton, hplace, not_or]
        exact ⟨hfresh g (List.mem_cons_of_mem _ hg), (hplaces.1 g hg).symm⟩
      rcases ih (fun g hg => hnames g (List.mem_cons_of_mem _ hg)) hfresh' hplaces.2 with
        ⟨added, hok, hmade, hall⟩ | ⟨before, g, after, e, rfl, hbefore, hg, herror⟩
      · refine .inl ⟨s :: added, by rw [hok, List.append_assoc, List.singleton_append], .cons hs hmade, ?_⟩
        exact List.forall_mem_cons.2 ⟨hfree, hall⟩
      · exact .inr ⟨f :: before, g, after, e, rfl, List.forall_mem_cons.2 ⟨hfree, hbefore⟩, hg, herror⟩

/-- A directory is added whole or not at all: one source for every file of the template set, in order, or the error of
the first of the files that is refused. -/
theorem addDirectory_enumerates {tree : FileTree} {current root : Place} {path : String} (htree : tree.Proper)
    (hroot : tree.resolve current path = some root) (hdirectory : tree.isDirectory root = true) (r : Registry)
    (renderer : Nat) :
    ∃ files, Enumerates files tree root ∧
      ((∃ added, r.addDirectory tree current path renderer = .ok ⟨r.sources ++ added⟩ ∧
          List.Forall₂ Submission.Makes (files.map (SetFile.submission renderer)) added ∧
          ∀ f ∈ files, ∀ e, ¬ r.Refuses f e) ∨
        ∃ before f after e, files = before ++ f :: after ∧ (∀ g ∈ before, ∀ e, ¬ r.Refuses g e) ∧ r.Refuses f e ∧
          r.addDirectory tree current path renderer = .error e ∧
          performAll r [.addDirectory tree current path renderer] = r) := by
  have hfiles := enumerates_walked htree root
  have hwalk : walk? tree current path = some (((tree.filesBelow root).filterMap setFile?).map SetFile.found) := by
    simp only [walk?, hroot, FileTree.isDirectory_iff.1 hdirectory, List.map_filterMap, ← foundFile?_eq]
  generalize (tree.filesBelow root).filterMap setFile? = files at hfiles hwalk
  have hnames : ∀ f ∈ files, f.name ≠ "" := fun f hf =>
    (((hfiles.mem_iff f).1 hf).plain htree f.name (by simp [SetFile.below])).1
  have hfresh : ∀ f ∈ files, (f.directory, f.name) ∉ ([] : List Source).map Source.place := fun _ _ => List.not_mem_nil
  refine ⟨files, hfiles, ?_⟩
  rcases gather_cases r renderer hnames hfresh (hfiles.pairwise_place htree) with
    ⟨added, hok, hmade, hfree⟩ | ⟨before, f, after, e, hsplit, hfree, hf, herror⟩
  · exact .inl ⟨added, by simp [addDirectory, hwalk, hok, Except.map], hmade, hfree⟩
  · have hadd : r.addDirectory tree current path renderer = .error e := by
      simp [addDirectory, hwalk, herror, Except.map]
    exact .inr ⟨before, f, after, e, hsplit, hfree, hf, hadd, by simp [performAll, Call.attempt, hadd]⟩

/-- Folders go by their names and not by the text of paths, a file is not skipped for the name of a folder, and a place
that is taken is met before the template behind it that is not text. -/
theorem addDirectory_enumerates_taken :
    let tree := FileTree.ofEntries [(["set", "a-b", "x.lt"], .file [255]), (["set", "a", "x"], .file [1]),
      (["set", "a", ".git", "config"], .file []), (["set", "a", ".DS_Store"], .file []), (["set", ".hg"], .file [])]
    let r : Registry := ⟨[⟨"x", "a", "1.0", .opaqueFile "", 0⟩]⟩
    let files : List SetFile := [⟨[], ".hg", []⟩, ⟨["a"], "x", [1]⟩, ⟨["a-b"], "x.lt", [255]⟩]
    Enumerates files tree ["set"] ∧ r.addDirectory tree [] "set" 0 = .error (.duplicate .template "x") := by
  intro tree r files
  have htree : tree.Proper := FileTree.proper_ofEntries (by decide)
  have hlisted : tree.files = [(["set", ".hg"], []), (["set", "a", ".DS_Store"], []),
      (["set", "a", ".git", "config"], []), (["set", "a", "x"], [1]), (["set", "a-b", "x.lt"], [255])] :=
    List.mergeSort_of_pairwise (by decide)
  have hfiles : Enumerates files tree ["set"] := by
    have hwalked := enumerates_walked htree ["set"]
    rwa [FileTree.filesBelow_eq, hlisted] at hwalked
  have htaken : r.Refuses ⟨["a"], "x", [1]⟩ (.duplicate .template "x") := .taken List.mem_cons_self rfl (by decide)
  obtain ⟨files', hfiles', ⟨added, -, -, hfree⟩ | ⟨before, f, after, e, hsplit, hfree, hf, herror, -⟩⟩ :=
    addDirectory_enumerates htree (by decide : tree.resolve [] "set" = some ["set"]) (by decide) r 0
  · obtain rfl := hfiles'.unique hfiles
    exact absurd htaken (hfree _ (by simp [files]) _)
  · obtain rfl := hfiles'.unique hfiles
    suffices he : e = .duplicate .template "x" from ⟨hfiles, he ▸ herror⟩
    rcases before with _ | ⟨g, _ | ⟨g', before⟩⟩
    · obtain ⟨rfl, -⟩ := List.cons_eq_cons.1 hsplit
      rcases hf with ⟨hs, hname, -⟩ | ⟨-, hsuffix, -⟩
      · obtain rfl := List.mem_singleton.1 hs
        exact absurd hname (by decide)
      · exact absurd hsuffix (by decide)
    · obtain ⟨rfl, -⟩ := List.cons_eq_cons.1 (List.cons_eq_cons.1 hsplit).2
      rcases hf with - | ⟨hfree', -, -⟩
      · rfl
      · exact absurd rfl (hfree' _ List.mem_cons_self rfl)
    · obtain ⟨rfl, -⟩ := List.cons_eq_cons.1 (List.cons_eq_cons.1 hsplit).2
      exact absurd htaken (hfree _ (by simp) _)

end Stencil.Registry
