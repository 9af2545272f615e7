import Stencil.Proofs.Output.Containment
/-!
# Writing into an empty directory

Where nothing stands below the root, it is a matter of the files alone whether they can be written. Each path has to
stay below and to be one that a file can have, and none may be that of a directory above another one (`FitTogether`);
then a file is obstructed by its own body and by nothing else (`FitTogether.obstructed_iff`). So all files are written
if all bodies decode (`writeFiles_empty_iff`), and nothing else has changed; otherwise the run fails for the first body
that does not (`FitTogether.writeFiles_eq_undecodable`).
-/

namespace Stencil

variable {current out : Place} {root : String} {tree : FileTree} {f g : OutputFile} {files : List OutputFile}

/-! ## The root -/

/-- The root leads to a directory, and nothing stands below that. -/
structure FileTree.EmptyRoot (tree : FileTree) (current : Place) (root : String) (out : Place) : Prop where
  leads : tree.resolve current root = some out
  directory : tree.isDirectory out = true
  free : ∀ names : List String, names ≠ [] → tree.get? (out ++ names) = none

namespace FileTree.EmptyRoot

theorem target_eq (h : tree.EmptyRoot current root out) : Path.target current (Path.moves root) = out :=
  (resolve_eq_some h.leads).1.symm

theorem isDirectory_of_mem_way (h : tree.EmptyRoot current root out) {p : Place}
    (hp : p ∈ Path.way current (Path.moves root)) : tree.isDirectory p = true := by
  rcases (resolve_eq_some h.leads).2 p hp with hdir | rfl
  · exact hdir
  · exact h.directory

theorem not_isDirectory (h : tree.EmptyRoot current root out) {names : List String} (hne : names ≠ []) :
    tree.isDirectory (out ++ names) ≠ true := by
  rw [ne_eq, isDirectory_iff, h.free names hne]
  exact nofun

theorem file?_below (h : tree.EmptyRoot current root out) {names : List String} (hne : names ≠ []) :
    tree.file? (out ++ names) = none := by
  rw [file?, h.free names hne]

theorem file?_way (h : tree.EmptyRoot current root out) {p : Place} (hp : p ∈ Path.way current (Path.moves root)) :
    tree.file? p = none := by
  rw [file?, isDirectory_iff.1 (h.isDirectory_of_mem_way hp)]

/-- Nothing below the root is on the way to it. -/
theorem not_mem_way (h : tree.EmptyRoot current root out) {names : List String} (hne : names ≠ []) :
    out ++ names ∉ Path.way current (Path.moves root) :=
  fun hmem => h.not_isDirectory hne (h.isDirectory_of_mem_way hmem)

end FileTree.EmptyRoot

/-! ## Files that fit -/

namespace OutputFile

/-- The path stays below the root, and a file can have it. -/
structure Fits (root : String) (f : OutputFile) : Prop where
  contained : Path.isContained f.path = true
  spelled : Path.wantsDirectory f.path = false
  usable : Path.isUsable (f.pathBelow root) = true

instance (root : String) (f : OutputFile) : Decidable (f.Fits root) :=
  decidable_of_iff (Path.isContained f.path = true ∧ Path.wantsDirectory f.path = false ∧
      Path.isUsable (f.pathBelow root) = true)
    ⟨fun ⟨h1, h2, h3⟩ => ⟨h1, h2, h3⟩, fun ⟨h1, h2, h3⟩ => ⟨h1, h2, h3⟩⟩

/-- The path is that of a directory above the other file. -/
def Above (f g : OutputFile) : Prop :=
  Path.moves f.path <+: Path.moves g.path ∧ Path.moves f.path ≠ Path.moves g.path

instance (f g : OutputFile) : Decidable (f.Above g) := inferInstanceAs (Decidable (_ ∧ _))

/-- The body decodes. -/
def Decodes (f : OutputFile) : Prop := f.decodedBody.isOk = true

instance (f : OutputFile) : Decidable f.Decodes := inferInstanceAs (Decidable (_ = true))

theorem decodes_iff : f.Decodes ↔ ∃ contents, f.decodedBody = .ok contents := by
  unfold Decodes
  cases f.decodedBody with
  | error fault => simp [Except.isOk, Except.toBool]
  | ok contents => simp [Except.isOk, Except.toBool]

theorem not_decodes_iff : ¬ f.Decodes ↔ ∃ fault, f.decodedBody = .error fault := by
  rw [decodes_iff]
  cases f.decodedBody <;> simp

/-- The names that lead from the root to a file. -/
theorem Fits.exists_names (hroot : tree.EmptyRoot current root out) (h : f.Fits root) :
    ∃ names name, Path.moves f.path = (names ++ [name]).map .down ∧
      f.destination current root = out ++ (names ++ [name]) ∧
      f.way current root = Path.way current (Path.moves root) ++ Path.way out (names.map .down) := by
  obtain ⟨names, name, hmoves, hends⟩ := exists_names_concat root h.contained h.spelled
  refine ⟨names, name, hmoves, ?_, ?_⟩
  · rw [destination, hends, List.append_assoc, Path.target_append, hroot.target_eq, ← List.map_singleton,
      ← List.map_append, Path.target_downs]
  · rw [way, hends, List.dropLast_concat, Path.way_append, hroot.target_eq]

theorem Fits.destination_mem_way_iff (hroot : tree.EmptyRoot current root out) (hf : f.Fits root) (hg : g.Fits root) :
    f.destination current root ∈ g.way current root ↔ f.Above g := by
  obtain ⟨ns, n, hmoves, hdest, -⟩ := hf.exists_names hroot
  obtain ⟨ms, m, hmoves', -, hway⟩ := hg.exists_names hroot
  have hinj : Function.Injective (List.map Path.Step.down) := List.map_injective_iff.2 fun _ _ => Path.Step.down.inj
  rw [hdest, hway, List.mem_append, or_iff_right (hroot.not_mem_way (by simp)), Path.mem_way_downs_iff, Above, hmoves,
    hmoves', List.prefix_map_iff, hinj.ne_iff]
  constructor
  · rintro ⟨ks, -, hks, heq⟩
    obtain rfl := List.append_cancel_left heq
    refine ⟨⟨_, hks.trans (List.prefix_append ms [m]), rfl⟩, fun hsame => ?_⟩
    have hlength := hks.length_le
    rw [hsame, List.length_append, List.length_singleton] at hlength
    exact Nat.not_succ_le_self _ hlength
  · rintro ⟨⟨ks, hks, heq⟩, hne⟩
    obtain rfl := hinj heq
    exact ⟨_, by simp, (List.prefix_concat_iff.1 hks).resolve_left hne, rfl⟩

end OutputFile

/-- Each file fits, and none stands where another one needs a directory. -/
structure FitTogether (root : String) (files : List OutputFile) : Prop where
  each : ∀ f ∈ files, f.Fits root
  apart : ∀ f ∈ files, ∀ g ∈ files, ¬ f.Above g

instance (root : String) (files : List OutputFile) : Decidable (FitTogether root files) :=
  decidable_of_iff ((∀ f ∈ files, f.Fits root) ∧ ∀ f ∈ files, ∀ g ∈ files, ¬ f.Above g)
    ⟨fun ⟨h1, h2⟩ => ⟨h1, h2⟩, fun ⟨h1, h2⟩ => ⟨h1, h2⟩⟩

/-! ## What is in the way of a file -/

namespace View

theorem isDirectory_overwritten (v : View) (files : List OutputFile) (p : Place) :
    (v.overwritten current root files).isDirectory p ↔ v.isDirectory p ∨ ∃ f ∈ files, p ∈ f.way current root := by
  induction files generalizing v with
  | nil => simp [overwritten]
  | cons f files ih =>
    simp only [overwritten_cons, ih, List.mem_cons, or_and_right, exists_or, exists_eq_left, ← or_assoc]
    rfl

/-- Where files that decode have been written there are files. -/
theorem file?_overwritten_ne_none (v : View) (h : ∀ f ∈ files, f.Decodes) (p : Place) :
    (v.overwritten current root files).file? p ≠ none ↔
      v.file? p ≠ none ∨ ∃ f ∈ files, f.destination current root = p := by
  induction files generalizing v with
  | nil => simp [overwritten]
  | cons f files ih =>
    rw [List.forall_mem_cons] at h
    obtain ⟨contents, hbody⟩ := OutputFile.decodes_iff.1 h.1
    simp only [overwritten_cons, ih _ h.2, List.mem_cons, or_and_right, exists_or, exists_eq_left, ← or_assoc,
      file?_write, hbody]
    by_cases hp : p = f.destination current root
    · simp [hp, Except.toOption]
    · rw [if_neg hp, or_iff_left (Ne.symm hp)]

end View

/-- Behind files that have been written, only its own body and their paths can obstruct a file. -/
theorem obstructed_iff (hroot : tree.EmptyRoot current root out) {earlier : List OutputFile}
    (hearlier : ∀ g ∈ earlier, g.Fits root ∧ g.Decodes) (hf : f.Fits root) :
    Obstructed current root (tree.view.overwritten current root earlier) f ↔
      ¬ f.Decodes ∨ ∃ g ∈ earlier, f.Above g ∨ g.Above f := by
  have hdecodes : ∀ g ∈ earlier, g.Decodes := fun g hg => (hearlier g hg).2
  obtain ⟨ns, n, -, hdest, hway⟩ := hf.exists_names hroot
  constructor
  · rintro (⟨fault, hbody⟩ | hdir | ⟨p, hp, hfile⟩ | hpath)
    · exact .inl (OutputFile.not_decodes_iff.2 ⟨fault, hbody⟩)
    · rw [View.isDirectory_overwritten] at hdir
      rcases hdir with (hdir | ⟨g, hg, hmem⟩) | hmem
      · rw [hdest] at hdir
        exact absurd hdir (hroot.not_isDirectory (by simp))
      · exact .inr ⟨g, hg, .inl ((hf.destination_mem_way_iff hroot (hearlier g hg).1).1 hmem)⟩
      · exact absurd rfl ((hf.destination_mem_way_iff hroot hf).1 hmem).2
    · rcases (View.file?_overwritten_ne_none _ hdecodes p).1 hfile with hfile | ⟨g, hg, rfl⟩
      · -- directories lead to the root, and below it there was nothing
        rw [hway, List.mem_append, Path.mem_way_downs_iff] at hp
        rcases hp with hp | ⟨ks, hks, -, rfl⟩
        · exact absurd (hroot.file?_way hp) hfile
        · exact absurd (hroot.file?_below hks) hfile
      · exact .inr ⟨g, hg, .inr (((hearlier g hg).1.destination_mem_way_iff hroot hf).1 hp)⟩
    · rw [hf.spelled, hf.usable] at hpath
      simp at hpath
  · rintro (hbody | ⟨g, hg, habove | habove⟩)
    · obtain ⟨fault, hbody⟩ := OutputFile.not_decodes_iff.1 hbody
      exact .body fault hbody
    · refine .directory (.inl ((View.isDirectory_overwritten _ _ _).2 (.inr ⟨g, hg, ?_⟩)))
      exact (hf.destination_mem_way_iff hroot (hearlier g hg).1).2 habove
    · refine .parent _ (((hearlier g hg).1.destination_mem_way_iff hroot hf).2 habove) ?_
      exact (View.file?_overwritten_ne_none _ hdecodes _).2 (.inr ⟨g, hg, rfl⟩)

/-! ## Writing the files -/

/-- Of files that fit together none obstructs another one, so it is for its body that one cannot be written. -/
theorem FitTogether.obstructed_iff (hroot : tree.EmptyRoot current root out) (h : FitTogether root files)
    {earlier : List OutputFile} (hearlier : ∀ g ∈ earlier, g ∈ files ∧ g.Decodes) (hf : f ∈ files) (body : Bytes) :
    Obstructed current root (tree.view.overwritten current root earlier) { f with body } ↔
      ¬ OutputFile.Decodes { f with body } := by
  have hfits : OutputFile.Fits root { f with body } :=
    ⟨(h.each f hf).contained, (h.each f hf).spelled, (h.each f hf).usable⟩
  rw [Stencil.obstructed_iff hroot (fun g hg => ⟨h.each g (hearlier g hg).1, (hearlier g hg).2⟩) hfits]
  refine or_iff_left ?_
  rintro ⟨g, hg, habove | habove⟩
  · exact h.apart f hf g (hearlier g hg).1 habove
  · exact h.apart g (hearlier g hg).1 f hf habove

theorem fitTogether_of_not_obstructed (hroot : tree.EmptyRoot current root out)
    (hcontained : ∀ f ∈ files, Path.isContained f.path = true)
    (h : ∀ earlier f later, files = earlier ++ f :: later →
      ¬ Obstructed current root (tree.view.overwritten current root earlier) f) :
    FitTogether root files ∧ ∀ f ∈ files, f.Decodes := by
  have heach : ∀ f ∈ files, f.Fits root ∧ f.Decodes := by
    intro f hf
    obtain ⟨earlier, later, hfiles⟩ := List.append_of_mem hf
    have hfree := h earlier f later hfiles
    refine ⟨⟨hcontained f hf, ?_, ?_⟩, ?_⟩
    · exact Bool.not_eq_true _ ▸ fun hspelled => hfree (.path (.inl hspelled))
    · exact Bool.not_eq_false _ ▸ fun husable => hfree (.path (.inr husable))
    · by_contra hbody
      obtain ⟨fault, hbody⟩ := OutputFile.not_decodes_iff.1 hbody
      exact hfree (.body fault hbody)
  refine ⟨⟨fun f hf => (heach f hf).1, fun f hf g hg habove => ?_⟩, fun f hf => (heach f hf).2⟩
  -- the later one of the two is obstructed
  have hlater {earlier rest : List OutputFile} {f g : OutputFile} (hfiles : files = earlier ++ f :: rest)
      (hg : g ∈ earlier) : ¬ (f.Above g ∨ g.Above f) := by
    intro habove
    refine h earlier f rest hfiles ((obstructed_iff hroot (fun g hg => heach g ?_) (heach f ?_).1).2
      (.inr ⟨g, hg, habove⟩))
    · simp [hfiles, hg]
    · simp [hfiles]
  obtain ⟨earlier, rest, hfiles⟩ := List.append_of_mem hf
  rw [hfiles, List.mem_append, List.mem_cons] at hg
  rcases hg with hg | rfl | hg
  · exact hlater hfiles hg (.inl habove)
  · exact habove.2 rfl
  · obtain ⟨between, rest, rfl⟩ := List.append_of_mem hg
    rw [← List.cons_append, ← List.append_assoc] at hfiles
    exact hlater hfiles (List.mem_append_right _ List.mem_cons_self) (.inr habove)

theorem FitTogether.writeFiles_eq_ok (hroot : tree.EmptyRoot current root out) (h : FitTogether root files)
    (hdecodes : ∀ f ∈ files, f.Decodes) :
    (writeFiles current root tree files).1 = .ok (files.map (·.pathBelow root)) := by
  have hcontained : ∀ f ∈ files, Path.isContained f.path = true := fun f hf => (h.each f hf).contained
  rw [writeFiles_of_contained current root tree hcontained]
  obtain ⟨before, rest, rfl, hprogress⟩ := writeAll_progress current root tree hcontained
  cases rest with
  | nil =>
    rw [List.append_nil] at hprogress ⊢
    exact hprogress.finished rfl
  | cons f later =>
    have hf : f ∈ before ++ f :: later := List.mem_append_right _ List.mem_cons_self
    have hbefore (g : OutputFile) (hg : g ∈ before) : g ∈ before ++ f :: later ∧ g.Decodes :=
      ⟨List.mem_append_left _ hg, hdecodes g (List.mem_append_left _ hg)⟩
    exact absurd (hdecodes f hf) ((h.obstructed_iff hroot hbefore hf f.body).1 (hprogress.stopped f later rfl).1)

/-- All files are written if they fit together and all bodies decode, and not otherwise. -/
theorem writeFiles_empty_iff (hroot : tree.EmptyRoot current root out) :
    (∃ paths, (writeFiles current root tree files).1 = .ok paths) ↔
      FitTogether root files ∧ ∀ f ∈ files, f.Decodes := by
  constructor
  · rintro ⟨paths, hok⟩
    exact fitTogether_of_not_obstructed hroot (contained_of_writeFiles hok) (progress_of_writeFiles hok).written
  · rintro ⟨hfit, hdecodes⟩
    exact ⟨_, hfit.writeFiles_eq_ok hroot hdecodes⟩

-- a file in the place of a directory that another one needs, whichever of them comes first
example : ¬ FitTogether "out" [⟨"b", "a", []⟩, ⟨"./a", "", []⟩] := by decide +kernel

/-- When all files have been written, what is different from before are their places. -/
theorem FitTogether.changed_iff (hroot : tree.EmptyRoot current root out) (h : FitTogether root files)
    (hdecodes : ∀ f ∈ files, f.Decodes) (p : Place) :
    (writeFiles current root tree files).2.file? p ≠ tree.file? p ↔ ∃ f ∈ files, f.destination current root = p := by
  rw [(progress_of_writeFiles (h.writeFiles_eq_ok hroot hdecodes)).file?]
  constructor
  · intro hchanged
    by_contra hnone
    push Not at hnone
    exact hchanged (View.file?_overwritten_of_ne hnone)
  · rintro ⟨f, hf, rfl⟩
    obtain ⟨names, name, -, hdest, -⟩ := (h.each f hf).exists_names hroot
    have hfree : tree.file? (f.destination current root) = none := by
      rw [hdest]
      exact hroot.file?_below (by simp)
    rw [hfree]
    exact (View.file?_overwritten_ne_none tree.view hdecodes _).2 (.inr ⟨f, hf, rfl⟩)

/-! ## Bodies that do not decode -/

/-- A file that could be written if it had another body fails for its body. -/
theorem Writes.eq_undecodable {outcome : Except Failure String} {after : FileTree} {fault : Bytes.Base64.Fault}
    (h : Writes current root tree f outcome after) (hf : f.Fits root) (hbody : f.decodedBody = .error fault)
    (hfree : ¬ Obstructed current root tree.view { f with body := [] }) :
    outcome = .error (.generation (.undecodable fault)) := by
  obtain ⟨name, hname, hparent, hway, hdest⟩ := OutputFile.exists_name current hf.contained hf.spelled hf.usable
  have hspelled : Path.wantsDirectory (f.pathBelow root) = false :=
    (Path.wantsDirectory_join root (Path.isContained_iff.1 hf.contained).1).trans hf.spelled
  cases h with
  | unmade _ blocked =>
    rw [hparent, hway] at blocked
    obtain ⟨p, hp, hfile⟩ := blocked.resolve_left (by simp)
    exact absurd (.parent p hp hfile) hfree
  | undecodable hmade hfault =>
    cases hbody.symm.trans hfault
    rfl
  | refused hmade blocked =>
    have hdir := ((blocked name hname).resolve_left (by simp [hf.usable])).resolve_left (by simp [hspelled])
    rw [← hdest, hmade.isDirectory_iff, hway] at hdir
    exact absurd (.directory hdir) hfree
  | put _ _ _ _ _ hcontents => cases hbody.symm.trans hcontents

/-- Behind files that can be written, a file that has only the wrong body fails the run for it. -/
theorem writeAll_eq_undecodable {before later : List OutputFile} {fault : Bytes.Base64.Fault}
    (hbefore : ∀ earlier g rest, before = earlier ++ g :: rest →
      ¬ Obstructed current root (tree.view.overwritten current root earlier) g)
    (hcontained : ∀ g ∈ before, Path.isContained g.path = true) (hf : f.Fits root)
    (hbody : f.decodedBody = .error fault)
    (hfree : ¬ Obstructed current root (tree.view.overwritten current root before) { f with body := [] }) :
    (writeAll current root tree (before ++ f :: later)).1 = .error (.generation (.undecodable fault)) := by
  induction before generalizing tree with
  | nil =>
    have herror := (writes_writeFile current root tree f).eq_undecodable hf hbody hfree
    rw [List.nil_append, writeAll_of_error herror]
  | cons g before ih =>
    rw [List.forall_mem_cons] at hcontained
    rcases (writes_writeFile current root tree g).cases hcontained.1 with ⟨-, hok, hview⟩ | ⟨hobstructed, -, -⟩
    · have hrest : (writeAll current root (writeFile current root tree g).2 (before ++ f :: later)).1 =
          .error (.generation (.undecodable fault)) := by
        refine ih (fun earlier e rest heq => ?_) hcontained.2 ?_
        · rw [hview]
          exact hbefore (g :: earlier) e rest (congrArg (g :: ·) heq)
        · rw [hview]
          exact hfree
      rw [List.cons_append, writeAll_of_ok hok, hrest]
      rfl
    · exact absurd hobstructed (hbefore [] g before rfl)

/-- Files that fit together fail for the first body that does not decode. -/
theorem FitTogether.writeFiles_eq_undecodable (hroot : tree.EmptyRoot current root out)
    {before later : List OutputFile} {fault : Bytes.Base64.Fault} (h : FitTogether root (before ++ f :: later))
    (hdecodes : ∀ g ∈ before, g.Decodes) (hbody : f.decodedBody = .error fault) :
    (writeFiles current root tree (before ++ f :: later)).1 = .error (.generation (.undecodable fault)) := by
  have hcontained : ∀ g ∈ before ++ f :: later, Path.isContained g.path = true := fun g hg => (h.each g hg).contained
  rw [writeFiles_of_contained current root tree hcontained]
  have hf : f ∈ before ++ f :: later := List.mem_append_right _ List.mem_cons_self
  have hbefore (g : OutputFile) (hg : g ∈ before) : g ∈ before ++ f :: later ∧ g.Decodes :=
    ⟨List.mem_append_left _ hg, hdecodes g hg⟩
  have hfree : ¬ Obstructed current root (tree.view.overwritten current root before) { f with body := [] } := by
    rw [h.obstructed_iff hroot hbefore hf, not_not]
    rfl
  refine writeAll_eq_undecodable ?_ (fun g hg => hcontained g (hbefore g hg).1) (h.each f hf) hbody hfree
  rintro earlier g rest rfl hobstructed
  have hg : g ∈ earlier ++ g :: rest := List.mem_append_right _ List.mem_cons_self
  have hearlier (e : OutputFile) (he : e ∈ earlier) := hbefore e (List.mem_append_left (g :: rest) he)
  exact (h.obstructed_iff hroot hearlier (hbefore g hg).1 g.body).1 hobstructed (hdecodes g hg)

theorem FitTogether.exists_undecodable (hroot : tree.EmptyRoot current root out) (h : FitTogether root files)
    (hbody : ∃ f ∈ files, ¬ f.Decodes) :
    ∃ fault, (writeFiles current root tree files).1 = .error (.generation (.undecodable fault)) := by
  obtain ⟨f, hfirst⟩ : ∃ f, files.find? (fun f => !decide f.Decodes) = some f :=
    Option.isSome_iff_exists.1 (by simpa using hbody)
  obtain ⟨hf, before, later, rfl, hbefore⟩ := List.find?_eq_some_iff_append.1 hfirst
  obtain ⟨fault, hbody⟩ := OutputFile.not_decodes_iff.1 (by simpa using hf : ¬ f.Decodes)
  exact ⟨fault, h.writeFiles_eq_undecodable hroot (fun g hg => by simpa using hbefore g hg) hbody⟩

/-- A run fails for a body only if there is one that does not decode. -/
theorem exists_of_writeFiles_undecodable {fault : Bytes.Base64.Fault}
    (h : (writeFiles current root tree files).1 = .error (.generation (.undecodable fault))) :
    ∃ f ∈ files, f.decodedBody = .error fault := by
  unfold writeFiles at h
  split at h
  · cases h
  · obtain ⟨f, hf, before, herror⟩ := exists_of_writeAll_error h
    have hwrites := writes_writeFile current root before f
    rw [herror] at hwrites
    cases hwrites with
    | undecodable _ hbody => exact ⟨f, hf, hbody⟩

end Stencil
