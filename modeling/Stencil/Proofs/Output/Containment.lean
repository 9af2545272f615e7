import Stencil.Proofs.Output.Overwriting
/-!
# Writing stays below the root

The check accepts a file by its directory and its name alone (`OutputFile.isContained_path_iff`). What is accepted makes
only moves down, so the file stands below the root, and so do the directories that it needs, but for those on the way to
the root itself.
-/

namespace Stencil

variable {current : Place} {root : String} {tree : FileTree} {f : OutputFile}

/-! ## What the check accepts -/

/-- A file is accepted if neither its directory nor its name is absolute or goes up. -/
theorem OutputFile.isContained_path_iff : Path.isContained f.path = true ↔
    Path.isAbsolute f.directory = false ∧ Path.isAbsolute f.fileName = false ∧
      ".." ∉ Path.parts f.directory ∧ ".." ∉ Path.parts f.fileName := by
  unfold path relativePath
  rw [Path.isContained_iff]
  by_cases hdir : f.directory = ""
  · simp [hdir, Path.isAbsolute]
  · rw [if_neg (by simpa using hdir)]
    cases hname : Path.isAbsolute f.fileName with
    | true => simp [Path.join, hname]
    | false =>
      obtain ⟨habs, before, -, hparts, hbefore⟩ := Path.join_parts hdir hname
      have hup : ".." ∉ Path.parts f.directory ↔ ".." ∉ before := by
        rcases hbefore with h | h <;> simp [h]
      rw [habs, hparts, List.mem_append, not_or, hup]
      simp

/-- The first file that is refused is the one that the check finds. -/
theorem firstEscaping?_append {earlier later : List OutputFile}
    (h : ∀ g ∈ earlier, Path.isContained g.path = true) (hf : Path.isContained f.path = false) :
    firstEscaping? (earlier ++ f :: later) = some f := by
  rw [firstEscaping?, List.find?_eq_some_iff_append]
  exact ⟨by simp [hf], earlier, later, rfl, fun g hg => by simp [h g hg]⟩

theorem Writes.ne_unsafePath {outcome : Except Failure String} {after : FileTree}
    (h : Writes current root tree f outcome after) (path : String) : outcome ≠ .error (.unsafePath path) := by
  cases h <;> simp

theorem writeAll_ne_unsafePath (current : Place) (root : String) (tree : FileTree) (files : List OutputFile)
    (path : String) : (writeAll current root tree files).1 ≠ .error (.unsafePath path) := by
  intro h
  obtain ⟨f, -, before, herror⟩ := exists_of_writeAll_error h
  exact (writes_writeFile current root before f).ne_unsafePath path herror

/-- A batch fails for a path if one is refused, and only then. -/
theorem writeFiles_unsafePath_iff {files : List OutputFile} :
    (∃ path, (writeFiles current root tree files).1 = .error (.unsafePath path)) ↔
      ∃ f ∈ files, Path.isContained f.path = false := by
  have hnone : (∃ f ∈ files, Path.isContained f.path = false) ↔ firstEscaping? files ≠ none := by
    rw [ne_eq, firstEscaping?_eq_none]
    push Not
    simp
  rw [hnone, writeFiles]
  cases firstEscaping? files with
  | some f => simp
  | none => simpa using writeAll_ne_unsafePath current root tree files

/-! ## What is below the root -/

/-- The place is below that of the root. -/
def IsBelow (current : Place) (root : String) (place : Place) : Prop :=
  ∃ names : List String, names ≠ [] ∧ place = Path.target current (Path.moves root) ++ names

/-- A file that can be written makes at least one move from the root, and all of them down. -/
theorem exists_names_of_not_obstructed {v : View} (h : ¬ Obstructed current root v f)
    (hcontained : Path.isContained f.path = true) :
    ∃ names : List String, names ≠ [] ∧ Path.moves f.path = names.map .down := by
  have hspelled : Path.wantsDirectory f.path = false := Bool.not_eq_true _ ▸ fun hpath => h (.path (.inl hpath))
  obtain ⟨names, name, hmoves, -⟩ := OutputFile.exists_names_concat root hcontained hspelled
  exact ⟨names ++ [name], by simp, hmoves⟩

theorem mem_way_pathBelow (hcontained : Path.isContained f.path = true) {p : Place}
    (hp : p ∈ Path.way current (Path.moves (f.pathBelow root))) :
    p ∈ Path.way current (Path.moves root) ∨ IsBelow current root p := by
  obtain ⟨names, hmoves, -⟩ := OutputFile.exists_moves_pathBelow root hcontained
  rw [hmoves, Path.way_append, List.mem_append, Path.mem_way_downs_iff] at hp
  exact hp.imp_right fun ⟨ns, hne, _, heq⟩ => ⟨ns, hne, heq⟩

/-- The directories above a file are on the way to the root or below it. -/
theorem mem_parentWay (hcontained : Path.isContained f.path = true) {p : Place}
    (hp : p ∈ f.parentWay current root) : p ∈ Path.way current (Path.moves root) ∨ IsBelow current root p := by
  unfold OutputFile.parentWay OutputFile.parentBelow at hp
  cases hparent : Path.parent? (f.pathBelow root) with
  | none =>
    rw [hparent] at hp
    exact .inl hp
  | some parent =>
    rw [hparent, Option.getD_some, (Path.parent?_eq_some hparent).1] at hp
    exact mem_way_pathBelow hcontained (Path.way_dropLast_subset _ _ hp)

theorem Writes.isDirectory {outcome : Except Failure String} {after : FileTree}
    (h : Writes current root tree f outcome after) (hcontained : Path.isContained f.path = true) {p : Place}
    (hp : after.isDirectory p = true) :
    tree.isDirectory p = true ∨ p ∈ Path.way current (Path.moves root) ∨ IsBelow current root p := by
  cases h with
  | unmade hbegun => exact (hbegun.isDirectory p hp).imp_right (mem_parentWay hcontained)
  | undecodable hmade => exact (hmade.isDirectory p hp).imp_right (mem_parentWay hcontained)
  | refused hmade => exact (hmade.isDirectory p hp).imp_right (mem_parentWay hcontained)
  | put hmade =>
    rw [FileTree.isDirectory_iff, FileTree.get?_put (by simp)] at hp
    split at hp
    · cases hp
    · exact (hmade.isDirectory p (FileTree.isDirectory_iff.2 hp)).imp_right (mem_parentWay hcontained)

theorem writeAll_isDirectory (current : Place) (root : String) (tree : FileTree) {files : List OutputFile}
    (h : ∀ f ∈ files, Path.isContained f.path = true) {p : Place}
    (hp : (writeAll current root tree files).2.isDirectory p = true) :
    tree.isDirectory p = true ∨ p ∈ Path.way current (Path.moves root) ∨ IsBelow current root p := by
  induction files generalizing tree with
  | nil => exact .inl hp
  | cons f files ih =>
    rw [List.forall_mem_cons] at h
    have hwrites := writes_writeFile current root tree f
    cases hoc : (writeFile current root tree f).1 with
    | error failure =>
      rw [writeAll_of_error hoc] at hp
      exact hwrites.isDirectory h.1 hp
    | ok written =>
      rw [writeAll_of_ok hoc] at hp
      rcases ih _ h.2 hp with hp | hp
      · exact hwrites.isDirectory h.1 hp
      · exact .inr hp

/-- The files that a run has written are below the root. -/
theorem Progress.exists_names {v : View} {before rest : List OutputFile} {outcome : Except Failure (List String)}
    {after : FileTree} (h : Progress current root v before rest outcome after)
    (hcontained : ∀ f ∈ before, Path.isContained f.path = true) (hf : f ∈ before) :
    ∃ names : List String, names ≠ [] ∧ Path.moves (f.pathBelow root) = Path.moves root ++ names.map .down ∧
      (root ≠ "" → Path.steps (f.pathBelow root) = Path.steps root ++ names.map .down) := by
  obtain ⟨earlier, later, hbefore⟩ := List.append_of_mem hf
  have hrelative := (Path.isContained_iff.1 (hcontained f hf)).1
  obtain ⟨names, hne, hmoves⟩ := exists_names_of_not_obstructed (h.written earlier f later hbefore) (hcontained f hf)
  refine ⟨names, hne, ?_, fun hroot => ?_⟩
  · rw [OutputFile.pathBelow, Path.moves_join root hrelative, hmoves]
  · rw [OutputFile.pathBelow, Path.steps_join hroot hrelative, hmoves]

theorem writeAll_paths (current : Place) (root : String) (tree : FileTree) {files : List OutputFile}
    (h : ∀ f ∈ files, Path.isContained f.path = true) {paths : List String}
    (hok : (writeAll current root tree files).1 = .ok paths) {path : String} (hpath : path ∈ paths) :
    ∃ names : List String, names ≠ [] ∧ Path.moves path = Path.moves root ++ names.map .down ∧
      (root ≠ "" → Path.steps path = Path.steps root ++ names.map .down) := by
  have hprogress := progress_of_ok h hok
  cases hprogress.finished rfl
  obtain ⟨f, hf, rfl⟩ := List.mem_map.1 hpath
  exact hprogress.exists_names h hf

theorem writeAll_file? (current : Place) (root : String) (tree : FileTree) {files : List OutputFile}
    (h : ∀ f ∈ files, Path.isContained f.path = true) {place : Place}
    (hne : (writeAll current root tree files).2.file? place ≠ tree.file? place) : IsBelow current root place := by
  obtain ⟨before, rest, rfl, hprogress⟩ := writeAll_progress current root tree h
  obtain ⟨f, hf, rfl⟩ : ∃ f ∈ before, f.destination current root = place := by
    by_contra hnone
    push Not at hnone
    apply hne
    rw [hprogress.file?, View.file?_overwritten_of_ne hnone]
    rfl
  obtain ⟨names, hnames, hmoves, -⟩ :=
    hprogress.exists_names (fun f hf => h f (List.mem_append_left rest hf)) hf
  refine ⟨names, hnames, ?_⟩
  rw [OutputFile.destination, hmoves, Path.target_append, Path.target_downs]

/-- Writing never leaves the root. A file is accepted if neither its directory nor its name is absolute or goes up, and
the first that is not accepted fails all of them before anything has changed. Whatever is written lies below
the root by plain names; only the directories that lead to the root are made elsewhere. -/
theorem writeFiles_stays_below (current : Place) (root : String) (tree : FileTree) (files : List OutputFile) :
    (∀ f : OutputFile, Path.isContained f.path = true ↔
      Path.isAbsolute f.directory = false ∧ Path.isAbsolute f.fileName = false ∧
        ".." ∉ Path.parts f.directory ∧ ".." ∉ Path.parts f.fileName) ∧
    (∀ earlier f later, files = earlier ++ f :: later → (∀ g ∈ earlier, Path.isContained g.path = true) →
      Path.isContained f.path = false →
      writeFiles current root tree files = (.error (.unsafePath f.path), tree)) ∧
    ((∀ f ∈ files, Path.isContained f.path = true) → ∀ path,
      (writeFiles current root tree files).1 ≠ .error (.unsafePath path)) ∧
    (∀ paths, (writeFiles current root tree files).1 = .ok paths → ∀ path ∈ paths,
      ∃ names : List String, names ≠ [] ∧ Path.moves path = Path.moves root ++ names.map .down ∧
        (root ≠ "" → Path.steps path = Path.steps root ++ names.map .down)) ∧
    (∀ place, (writeFiles current root tree files).2.file? place ≠ tree.file? place → IsBelow current root place) ∧
    ∀ place, (writeFiles current root tree files).2.isDirectory place = true →
      tree.isDirectory place = true ∨ place ∈ Path.way current (Path.moves root) ∨ IsBelow current root place := by
  have hrefused (earlier : List OutputFile) (f : OutputFile) (later : List OutputFile)
      (hfiles : files = earlier ++ f :: later) (hearlier : ∀ g ∈ earlier, Path.isContained g.path = true)
      (hf : Path.isContained f.path = false) :
      writeFiles current root tree files = (.error (.unsafePath f.path), tree) := by
    rw [writeFiles, hfiles, firstEscaping?_append hearlier hf]
  refine ⟨fun f => OutputFile.isContained_path_iff, hrefused, ?_⟩
  cases hfirst : firstEscaping? files with
  | some f =>
    have hall : writeFiles current root tree files = (.error (.unsafePath f.path), tree) := by
      rw [writeFiles, hfirst]
    rw [hall]
    refine ⟨fun hcontained => ?_, ?_, ?_, ?_⟩
    · rw [firstEscaping?_eq_none.2 hcontained] at hfirst
      cases hfirst
    · intro paths hok
      cases hok
    · exact fun place hne => absurd rfl hne
    · exact fun place hdir => .inl hdir
  | none =>
    have hcontained := firstEscaping?_eq_none.1 hfirst
    have hall : writeFiles current root tree files = writeAll current root tree files := by
      rw [writeFiles, hfirst]
    rw [hall]
    refine ⟨fun _ => writeAll_ne_unsafePath current root tree files, ?_, ?_, ?_⟩
    · exact fun paths hok path hpath => writeAll_paths current root tree hcontained hok hpath
    · exact fun place hne => writeAll_file? current root tree hcontained hne
    · exact fun place hdir => writeAll_isDirectory current root tree hcontained hdir

/-- The second file goes up from its directory, and the first is not written either; alone it is. -/
theorem writeFiles_stays_below_refused :
    let tree : FileTree := ⟨[(["kept"], .file [0])]⟩
    let first : OutputFile := ⟨"./a", "src", [1]⟩
    let second : OutputFile := ⟨"../../b", "src", [2]⟩
    writeFiles [] "/out" tree [first, second] = (.error (.unsafePath "src/../../b"), tree) ∧
      (writeFiles [] "/out" {} [first]).1 = .ok ["/out/src/./a"] ∧
      ∃ names : List String, names ≠ [] ∧ Path.moves "/out/src/./a" = Path.moves "/out" ++ names.map .down := by
  intro tree first second
  obtain ⟨-, hrefused, -⟩ := writeFiles_stays_below [] "/out" tree [first, second]
  obtain ⟨-, -, -, hpaths, -⟩ := writeFiles_stays_below [] "/out" {} [first]
  have hok : (writeFiles [] "/out" {} [first]).1 = .ok ["/out/src/./a"] := by decide +kernel
  obtain ⟨names, hne, hmoves, -⟩ := hpaths _ hok _ List.mem_cons_self
  have hsecond : second.path = "src/../../b" := by decide
  rw [← hsecond]
  exact ⟨hrefused [first] second [] rfl (by decide) (by decide), hok, names, hne, hmoves⟩

end Stencil
