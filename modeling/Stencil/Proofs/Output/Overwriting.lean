import Mathlib.Data.List.Nodup
import Mathlib.Data.List.Perm.Subperm
import Stencil.Output.Writer
import Stencil.Proofs.Files.Tree
/-!
# What writing does to a tree

A `View` is what a tree holds, without how it holds it. Writing a file puts its octets at its destination, and
directories on the way there; `Obstructed` says when it cannot be written. `Writes` says what writing one file can do.
It does the one or refuses for the other (`Writes.cases`), so a run goes as far as the first obstructed file
(`writeAll_progress`).

A file goes through a temporary one. Nothing stands in the place of that before, so the tree is in the end as if
the file had been put there at once (`putThrough_eq`).
-/

namespace Stencil

/-! ## Through a temporary file -/

theorem temporaryName_inj {m n : Nat} (h : temporaryName m = temporaryName n) : m = n := by
  have hlength := congrArg (fun s : String => s.toList.length) h
  simpa [temporaryName] using hlength

namespace FileTree

/-- There are more candidates than entries, so one of them is free. -/
theorem get?_temporary (tree : FileTree) (directory : Place) : tree.get? (tree.temporary directory) = none := by
  unfold temporary
  simp only
  generalize hc : (List.range (tree.entries.length + 1)).map (directory ++ [temporaryName ·]) = candidates
  cases hfind : candidates.find? fun place => (tree.get? place).isNone with
  | some c => simpa using List.find?_some hfind
  | none =>
    rw [List.find?_eq_none] at hfind
    -- all candidates would be places of entries, and they are one too many for that
    have hbound : candidates ⊆ tree.entries.map (·.1) := by
      intro c hmem
      have hne : c ≠ [] := by
        rw [← hc] at hmem
        obtain ⟨n, -, rfl⟩ := List.mem_map.1 hmem
        simp
      have hsome := hfind c hmem
      rw [get?_of_ne_nil hne, Option.isNone_iff_eq_none, List.lookup_eq_none_iff] at hsome
      push Not at hsome
      obtain ⟨e, he, heq⟩ := hsome
      rw [List.mem_map]
      exact ⟨e, he, (by simpa using heq : c = e.1).symm⟩
    have hnodup : candidates.Nodup := by
      rw [← hc]
      refine List.Nodup.map (fun m n h => temporaryName_inj ?_) List.nodup_range
      simpa using h
    have hlength := (hnodup.subperm hbound).length_le
    rw [← hc, List.length_map, List.length_map, List.length_range] at hlength
    omega

theorem temporary_ne_nil (tree : FileTree) (directory : Place) : tree.temporary directory ≠ [] := by
  intro h
  have hfree := get?_temporary tree directory
  rw [h, get?_nil] at hfree
  cases hfree

/-- Whatever free place a file is written through, in the end it stands in its own place or nowhere. -/
theorem putThrough_eq {tree : FileTree} {temporary : Place} (hne : temporary ≠ [])
    (hfree : tree.get? temporary = none) (directory : Place) (path : String) (contents : Bytes) :
    tree.putThrough temporary directory path contents =
      match Path.fileName? path with
      | none => (.error (.inaccessible path), tree)
      | some name =>
        if !Path.isUsable path || Path.wantsDirectory path || tree.isDirectory (directory ++ [name]) then
          (.error (.inaccessible path), tree)
        else (.ok (), tree.put (directory ++ [name]) (.file contents)) := by
  have herase : (tree.put temporary (.file contents)).erase temporary = tree := erase_put hne hfree
  have hfile : (tree.put temporary (.file contents)).file? temporary = some contents := by
    rw [file?_put_file hne, if_pos rfl]
  unfold putThrough rename
  simp only [put_put, hfile]
  cases Path.fileName? path with
  | none => simp only [herase]
  | some name =>
    have hdir : (tree.put temporary (.file contents)).isDirectory (directory ++ [name]) =
        tree.isDirectory (directory ++ [name]) := by
      rw [Bool.eq_iff_iff, isDirectory_iff, isDirectory_iff, get?_put hne]
      split
      · next h => simp [h, hfree]
      · rfl
    simp only [hdir, herase]
    cases !Path.isUsable path || Path.wantsDirectory path || tree.isDirectory (directory ++ [name]) with
    | true => rfl
    | false => rfl

/-- A directory is made where a path leads, or the path cannot be that of a file, or a file stands on the way. -/
theorem makeDirectory_cases (tree : FileTree) (current : Place) (path : String) :
    ((tree.makeDirectory current path).1 = none ∧
        tree.Begun (Path.way current (Path.moves path)) (tree.makeDirectory current path).2 ∧
        (Path.isUsable path = false ∨ ∃ p ∈ Path.way current (Path.moves path), tree.file? p ≠ none)) ∨
      (tree.makeDirectory current path).1 = some (Path.target current (Path.moves path)) ∧
        tree.Made (Path.way current (Path.moves path)) (tree.makeDirectory current path).2 := by
  have hunusable (h : ¬ (Path.isAddressable path = true ∧ ∀ n ∈ Path.names path, Path.isShort n = true)) :
      Path.isUsable path = false := by
    rwa [← Bool.not_eq_true, Path.isUsable_iff]
  rw [← Path.way_steps, ← Path.target_steps, makeDirectory]
  split
  · next haddressable =>
    have hbegun := tree.begun_makeDirectories current (Path.steps path)
    cases harrived : (tree.makeDirectories current (Path.steps path)).1 with
    | none =>
      refine .inl ⟨rfl, hbegun, (makeDirectories_eq_none harrived).imp_left ?_⟩
      rintro ⟨name, hname, hlong⟩
      refine hunusable fun h => ?_
      rw [h.2 name (Path.mem_names_of_mem_steps hname)] at hlong
      cases hlong
    | some arrived =>
      obtain ⟨rfl, hmade⟩ := makeDirectories_eq_some harrived
      exact .inr ⟨rfl, hmade⟩
  · next haddressable => exact .inl ⟨rfl, .refl tree _, .inl (hunusable fun h => haddressable h.1)⟩

end FileTree

/-! ## Writing one file -/

namespace OutputFile

/-- The path of the file below a root. -/
def pathBelow (root : String) (f : OutputFile) : String := Path.join root f.path

/-- The path of the directory that the file lies in. -/
def parentBelow (root : String) (f : OutputFile) : String := (Path.parent? (f.pathBelow root)).getD root

/-- Where that directory is. -/
def parentPlace (current : Place) (root : String) (f : OutputFile) : Place :=
  Path.target current (Path.moves (f.parentBelow root))

/-- The directories on the way to it, that one included. -/
def parentWay (current : Place) (root : String) (f : OutputFile) : List Place :=
  Path.way current (Path.moves (f.parentBelow root))

/-- Where the file stands. -/
def destination (current : Place) (root : String) (f : OutputFile) : Place :=
  Path.target current (Path.moves (f.pathBelow root))

/-- The directories on the way to the file. -/
def way (current : Place) (root : String) (f : OutputFile) : List Place :=
  Path.way current (Path.moves (f.pathBelow root)).dropLast

end OutputFile

variable {current : Place} {root : String} {tree : FileTree} {f : OutputFile}

/-- What writing one file can do, by the answer and the tree that is left. -/
inductive Writes (current : Place) (root : String) (tree : FileTree) (f : OutputFile) :
    Except Failure String → FileTree → Prop
  | unmade {made : FileTree}
      (hbegun : tree.Begun (f.parentWay current root) made)
      (blocked : Path.isUsable (f.parentBelow root) = false ∨
        ∃ p ∈ f.parentWay current root, tree.file? p ≠ none) :
      Writes current root tree f (.error (.inaccessible (f.parentBelow root))) made
  | undecodable {made : FileTree} {fault : Bytes.Base64.Fault}
      (hmade : tree.Made (f.parentWay current root) made)
      (hbody : f.decodedBody = .error fault) :
      Writes current root tree f (.error (.generation (.undecodable fault))) made
  | refused {made : FileTree}
      (hmade : tree.Made (f.parentWay current root) made)
      (blocked : ∀ name, Path.fileName? (f.pathBelow root) = some name →
        Path.isUsable (f.pathBelow root) = false ∨ Path.wantsDirectory (f.pathBelow root) = true ∨
          made.isDirectory (f.parentPlace current root ++ [name]) = true) :
      Writes current root tree f (.error (.inaccessible (f.pathBelow root))) made
  | put {made : FileTree} {name : String} {contents : Bytes}
      (hmade : tree.Made (f.parentWay current root) made)
      (hname : Path.fileName? (f.pathBelow root) = some name)
      (husable : Path.isUsable (f.pathBelow root) = true)
      (hspelled : Path.wantsDirectory (f.pathBelow root) = false)
      (hfree : made.isDirectory (f.parentPlace current root ++ [name]) = false)
      (hbody : f.decodedBody = .ok contents) :
      Writes current root tree f (.ok (f.pathBelow root))
        (made.put (f.parentPlace current root ++ [name]) (.file contents))

theorem writes_writeFile (current : Place) (root : String) (tree : FileTree) (f : OutputFile) :
    Writes current root tree f (writeFile current root tree f).1 (writeFile current root tree f).2 := by
  have hparent : (Path.parent? (Path.join root f.path)).getD root = f.parentBelow root := rfl
  have hcases := tree.makeDirectory_cases current (f.parentBelow root)
  unfold writeFile
  simp only [hparent]
  generalize tree.makeDirectory current (f.parentBelow root) = result at hcases ⊢
  obtain ⟨arrived?, made⟩ := result
  rcases hcases with ⟨rfl, hbegun, hblocked⟩ | ⟨rfl, hmade⟩
  · exact .unmade hbegun hblocked
  · cases hbody : f.decodedBody with
    | error fault => exact .undecodable hmade hbody
    | ok contents =>
      simp only [FileTree.putThrough_eq (made.temporary_ne_nil _) (made.get?_temporary _)]
      cases hname : Path.fileName? (Path.join root f.path) with
      | none => exact .refused hmade fun name h => absurd (hname.symm.trans h) (by simp)
      | some name =>
        simp only
        split
        · next hblocked =>
          refine .refused hmade fun name' h => ?_
          cases hname.symm.trans h
          simpa [or_assoc, OutputFile.pathBelow, OutputFile.parentPlace] using hblocked
        · next hblocked =>
          simp only [Bool.or_eq_true, not_or, Bool.not_eq_true, Bool.not_eq_false'] at hblocked
          exact .put hmade hname hblocked.1.1 hblocked.1.2 hblocked.2 hbody

/-! ## Views -/

/-- What a tree holds. -/
structure View where
  file? : Place → Option Bytes
  isDirectory : Place → Prop

/-- What the tree holds. -/
def FileTree.view (tree : FileTree) : View := ⟨tree.file?, (tree.isDirectory · = true)⟩

namespace View

/-- The view with the octets of a file at its destination, and directories on the way there. -/
def write (current : Place) (root : String) (v : View) (f : OutputFile) : View where
  file? p := if p = f.destination current root then f.decodedBody.toOption else v.file? p
  isDirectory p := v.isDirectory p ∨ p ∈ f.way current root

/-- The view with all files written in order. -/
def overwritten (current : Place) (root : String) (v : View) (files : List OutputFile) : View :=
  files.foldl (write current root) v

end View

/-- The file cannot be written. -/
inductive Obstructed (current : Place) (root : String) (v : View) (f : OutputFile) : Prop
  /-- The body does not decode. -/
  | body (fault : Bytes.Base64.Fault) (h : f.decodedBody = .error fault)
  /-- A directory stands in the place of the file, or has to be made there. -/
  | directory (h : v.isDirectory (f.destination current root) ∨ f.destination current root ∈ f.way current root)
  /-- A file stands in the place of a directory on the way. -/
  | parent (p : Place) (hway : p ∈ f.way current root) (h : v.file? p ≠ none)
  /-- No file can have the path, as it is spelled like that of a directory or is not usable. -/
  | path (h : Path.wantsDirectory f.path = true ∨ Path.isUsable (f.pathBelow root) = false)

namespace OutputFile

/-- The moves to a file that stays below. -/
theorem exists_moves_pathBelow (root : String) (h : Path.isContained f.path = true) :
    ∃ ns : List String, Path.moves (f.pathBelow root) = Path.moves root ++ ns.map .down ∧
      Path.moves f.path = ns.map .down := by
  obtain ⟨ns, hns⟩ := Path.isContained_iff_moves.1 h
  refine ⟨ns, ?_, hns⟩
  rw [pathBelow, Path.moves_join root (Path.isContained_iff.1 h).1, hns]

/-- A path that is not spelled like that of a directory ends with a name. -/
theorem exists_names_concat (root : String) (h : Path.isContained f.path = true)
    (hspelled : Path.wantsDirectory f.path = false) :
    ∃ (names : List String) (name : String), Path.moves f.path = (names ++ [name]).map .down ∧
      Path.moves (f.pathBelow root) = (Path.moves root ++ names.map .down) ++ [.down name] := by
  obtain ⟨ns, hmoves, hns⟩ := exists_moves_pathBelow root h
  obtain ⟨before, s, hlast⟩ := Path.exists_moves_append hspelled
  obtain ⟨names, name, rfl⟩ : ∃ names name, ns = names ++ [name] := by
    refine (List.eq_nil_or_concat' ns).resolve_left fun hnil => ?_
    rw [hns, hnil] at hlast
    simp at hlast
  refine ⟨names, name, hns, ?_⟩
  rw [hmoves, List.map_append, ← List.append_assoc]
  rfl

/-- A path that a file can have leads to a name in its parent. -/
theorem exists_name (current : Place) (h : Path.isContained f.path = true)
    (hspelled : Path.wantsDirectory f.path = false) (husable : Path.isUsable (f.pathBelow root) = true) :
    ∃ name, Path.fileName? (f.pathBelow root) = some name ∧ Path.isUsable (f.parentBelow root) = true ∧
      f.parentWay current root = f.way current root ∧
      f.destination current root = f.parentPlace current root ++ [name] := by
  obtain ⟨names, name, -, hends⟩ := exists_names_concat root h hspelled
  obtain ⟨parent, hparent⟩ := Path.exists_parent? hends
  obtain ⟨hparentmoves, hparentusable⟩ := Path.parent?_eq_some hparent
  have heq : f.parentBelow root = parent := by rw [parentBelow, hparent, Option.getD_some]
  refine ⟨name, Path.fileName?_of_moves hends, ?_, ?_, ?_⟩
  · rw [heq]
    exact hparentusable husable
  · rw [parentWay, heq, hparentmoves, way]
  · rw [parentPlace, heq, hparentmoves, destination, hends, List.dropLast_concat, Path.target_append]
    rfl

end OutputFile

/-- A file that is put where its directories have been made is written. -/
theorem view_put {made : FileTree} {contents : Bytes} (hmade : tree.Made (f.way current root) made)
    (hne : f.destination current root ≠ []) (hfree : made.isDirectory (f.destination current root) = false)
    (hbody : f.decodedBody = .ok contents) :
    (made.put (f.destination current root) (.file contents)).view = tree.view.write current root f := by
  unfold FileTree.view View.write
  rw [View.mk.injEq]
  constructor
  · funext p
    rw [FileTree.file?_put_file hne, hmade.file?, hbody]
    rfl
  · funext p
    rw [eq_iff_iff, ← hmade.isDirectory_iff p, FileTree.isDirectory_iff, FileTree.get?_put hne,
      FileTree.isDirectory_iff]
    split
    · next heq =>
      rw [heq, ← FileTree.isDirectory_iff, hfree]
      simp
    · exact Iff.rfl

/-- A file is written, or it is obstructed and no file has changed. -/
theorem Writes.cases {outcome : Except Failure String} {after : FileTree}
    (h : Writes current root tree f outcome after) (hcontained : Path.isContained f.path = true) :
    (¬ Obstructed current root tree.view f ∧ outcome = .ok (f.pathBelow root) ∧
        after.view = tree.view.write current root f) ∨
      (Obstructed current root tree.view f ∧ (∃ failure, outcome = .error failure) ∧
        ∀ p, after.file? p = tree.file? p) := by
  have hspelled : Path.wantsDirectory (f.pathBelow root) = Path.wantsDirectory f.path :=
    Path.wantsDirectory_join root (Path.isContained_iff.1 hcontained).1
  -- without a name at its end the path may have no parent, so such a path is looked at apart
  by_cases hpath : Path.wantsDirectory f.path = true ∨ Path.isUsable (f.pathBelow root) = false
  · refine .inr ⟨.path hpath, ?_⟩
    cases h with
    | unmade hbegun => exact ⟨⟨_, rfl⟩, hbegun.file?⟩
    | undecodable hmade => exact ⟨⟨_, rfl⟩, hmade.file?⟩
    | refused hmade => exact ⟨⟨_, rfl⟩, hmade.file?⟩
    | put _ _ husable hput =>
      rw [← hspelled, hput, husable] at hpath
      simp at hpath
  · rw [not_or, Bool.not_eq_true, Bool.not_eq_false] at hpath
    obtain ⟨name, hname, hparent, hway, hdest⟩ := OutputFile.exists_name current hcontained hpath.1 hpath.2
    cases h with
    | unmade hbegun blocked =>
      rw [hparent, hway] at blocked
      obtain ⟨p, hp, hfile⟩ := blocked.resolve_left (by simp)
      exact .inr ⟨.parent p hp hfile, ⟨_, rfl⟩, hbegun.file?⟩
    | undecodable hmade hbody => exact .inr ⟨.body _ hbody, ⟨_, rfl⟩, hmade.file?⟩
    | refused hmade blocked =>
      have hdir := ((blocked name hname).resolve_left (by simp [hpath.2])).resolve_left (by simp [hspelled, hpath.1])
      rw [← hdest, hmade.isDirectory_iff, hway] at hdir
      exact .inr ⟨.directory hdir, ⟨_, rfl⟩, hmade.file?⟩
    | put hmade hname' husable hput hfree hbody =>
      cases hname.symm.trans hname'
      rw [← hdest] at hfree ⊢
      rw [hway] at hmade
      refine .inl ⟨fun hobstructed => ?_, rfl, view_put hmade (by simp [hdest]) hfree hbody⟩
      cases hobstructed with
      | body fault h => cases hbody.symm.trans h
      | directory h => exact absurd ((hmade.isDirectory_iff _).2 h) (by simp [hfree])
      | parent p hp h => exact h (hmade.free p hp)
      | path h => simp [hpath] at h

/-! ## Writing all files -/

namespace View

variable {v : View} {files : List OutputFile}

theorem file?_write (v : View) (f : OutputFile) (p : Place) :
    (v.write current root f).file? p =
      if p = f.destination current root then f.decodedBody.toOption else v.file? p := rfl

theorem overwritten_cons (v : View) (f : OutputFile) (files : List OutputFile) :
    v.overwritten current root (f :: files) = (v.write current root f).overwritten current root files := rfl

theorem file?_overwritten_of_ne {p : Place} (h : ∀ f ∈ files, f.destination current root ≠ p) :
    (v.overwritten current root files).file? p = v.file? p := by
  induction files generalizing v with
  | nil => rfl
  | cons f files ih =>
    rw [List.forall_mem_cons] at h
    rw [overwritten_cons, ih h.2, file?_write, if_neg (Ne.symm h.1)]

/-- Of the files with one destination the last one stands there. -/
theorem file?_overwritten_last {earlier later : List OutputFile}
    (h : ∀ g ∈ later, g.destination current root ≠ f.destination current root) :
    (v.overwritten current root (earlier ++ f :: later)).file? (f.destination current root) =
      f.decodedBody.toOption := by
  rw [overwritten, List.foldl_append]
  change (overwritten current root _ (f :: later)).file? _ = _
  rw [overwritten_cons, file?_overwritten_of_ne h, file?_write, if_pos rfl]

end View

/-- A run has written the files `before`, and stopped at the first of the `rest`. -/
structure Progress (current : Place) (root : String) (v : View) (before rest : List OutputFile)
    (outcome : Except Failure (List String)) (after : FileTree) : Prop where
  written : ∀ earlier f later, before = earlier ++ f :: later →
    ¬ Obstructed current root (v.overwritten current root earlier) f
  stopped : ∀ f later, rest = f :: later →
    Obstructed current root (v.overwritten current root before) f ∧ ∃ failure, outcome = .error failure
  finished : rest = [] → outcome = .ok (before.map (·.pathBelow root))
  file? : ∀ p, after.file? p = (v.overwritten current root before).file? p

theorem Progress.cons {before rest : List OutputFile} {outcome : Except Failure (List String)} {after : FileTree}
    {v : View} (hfirst : ¬ Obstructed current root v f)
    (h : Progress current root (v.write current root f) before rest outcome after) :
    Progress current root v (f :: before) rest (outcome.map (f.pathBelow root :: ·)) after where
  written := by
    intro earlier g later hbefore
    cases earlier with
    | nil =>
      cases hbefore
      exact hfirst
    | cons e earlier =>
      cases hbefore
      exact h.written earlier g later rfl
  stopped := by
    intro g later hrest
    obtain ⟨hobstructed, failure, houtcome⟩ := h.stopped g later hrest
    exact ⟨hobstructed, failure, by rw [houtcome]; rfl⟩
  finished := by
    intro hrest
    rw [h.finished hrest]
    rfl
  file? := h.file?

theorem writeAll_of_ok {path : String} {files : List OutputFile} (h : (writeFile current root tree f).1 = .ok path) :
    writeAll current root tree (f :: files) =
      ((writeAll current root (writeFile current root tree f).2 files).1.map (path :: ·),
        (writeAll current root (writeFile current root tree f).2 files).2) := by
  rw [writeAll]
  generalize writeFile current root tree f = written at h ⊢
  obtain ⟨outcome, after⟩ := written
  cases h
  rfl

theorem writeAll_of_error {failure : Failure} {files : List OutputFile}
    (h : (writeFile current root tree f).1 = .error failure) :
    writeAll current root tree (f :: files) = (.error failure, (writeFile current root tree f).2) := by
  rw [writeAll]
  generalize writeFile current root tree f = written at h ⊢
  obtain ⟨outcome, after⟩ := written
  cases h
  rfl

/-- A run fails as the writing of one of its files does. -/
theorem exists_of_writeAll_error {files : List OutputFile} {failure : Failure}
    (h : (writeAll current root tree files).1 = .error failure) :
    ∃ f ∈ files, ∃ before, (writeFile current root before f).1 = .error failure := by
  induction files generalizing tree with
  | nil => cases h
  | cons f files ih =>
    cases hoc : (writeFile current root tree f).1 with
    | error first =>
      rw [writeAll_of_error hoc] at h
      cases h
      exact ⟨f, List.mem_cons_self, tree, hoc⟩
    | ok written =>
      rw [writeAll_of_ok hoc] at h
      -- putting a path in front keeps a failure, and makes none
      cases hrest : (writeAll current root (writeFile current root tree f).2 files).1 with
      | error later =>
        rw [hrest] at h
        cases h
        obtain ⟨g, hg, hfails⟩ := ih hrest
        exact ⟨g, List.mem_cons_of_mem f hg, hfails⟩
      | ok paths =>
        rw [hrest] at h
        cases h

/-- A run writes the files before the first obstructed one. -/
theorem writeAll_progress (current : Place) (root : String) (tree : FileTree) {files : List OutputFile}
    (h : ∀ f ∈ files, Path.isContained f.path = true) :
    ∃ before rest, files = before ++ rest ∧
      Progress current root tree.view before rest (writeAll current root tree files).1
        (writeAll current root tree files).2 := by
  induction files generalizing tree with
  | nil =>
    refine ⟨[], [], rfl, ?_, ?_, fun _ => rfl, fun _ => rfl⟩
    · simp
    · simp
  | cons f files ih =>
    rw [List.forall_mem_cons] at h
    have hwrites := writes_writeFile current root tree f
    -- the first file is written and the rest goes on from there, or the run stops before it
    rcases hwrites.cases h.1 with ⟨hfree, hok, hview⟩ | ⟨hobstructed, ⟨failure, herror⟩, hfile⟩
    · obtain ⟨before, rest, hfiles, hprogress⟩ := ih (writeFile current root tree f).2 h.2
      rw [hview] at hprogress
      rw [writeAll_of_ok hok]
      exact ⟨f :: before, rest, congrArg (f :: ·) hfiles, hprogress.cons hfree⟩
    · rw [writeAll_of_error herror]
      refine ⟨[], f :: files, rfl, by simp, ?_, by simp, hfile⟩
      intro g later hrest
      cases hrest
      exact ⟨hobstructed, failure, rfl⟩

theorem progress_of_ok {files : List OutputFile} (h : ∀ f ∈ files, Path.isContained f.path = true)
    {paths : List String} (hok : (writeAll current root tree files).1 = .ok paths) :
    Progress current root tree.view files [] (.ok paths) (writeAll current root tree files).2 := by
  obtain ⟨before, rest, rfl, hprogress⟩ := writeAll_progress current root tree h
  rw [hok] at hprogress
  cases rest with
  | nil => rwa [List.append_nil] at hprogress ⊢
  | cons f later =>
    obtain ⟨-, failure, herror⟩ := hprogress.stopped f later rfl
    cases herror

theorem firstEscaping?_eq_none {files : List OutputFile} :
    firstEscaping? files = none ↔ ∀ f ∈ files, Path.isContained f.path = true := by
  simp [firstEscaping?]

theorem contained_of_writeFiles {files : List OutputFile} {paths : List String}
    (h : (writeFiles current root tree files).1 = .ok paths) :
    ∀ f ∈ files, Path.isContained f.path = true := by
  rw [← firstEscaping?_eq_none]
  unfold writeFiles at h
  split at h
  · cases h
  · assumption

theorem writeFiles_of_contained (current : Place) (root : String) (tree : FileTree) {files : List OutputFile}
    (h : ∀ f ∈ files, Path.isContained f.path = true) :
    writeFiles current root tree files = writeAll current root tree files := by
  rw [writeFiles, firstEscaping?_eq_none.2 h]

theorem progress_of_writeFiles {files : List OutputFile} {paths : List String}
    (h : (writeFiles current root tree files).1 = .ok paths) :
    Progress current root tree.view files [] (.ok paths) (writeFiles current root tree files).2 := by
  have hcontained := contained_of_writeFiles h
  rw [writeFiles_of_contained current root tree hcontained] at h ⊢
  exact progress_of_ok hcontained h

end Stencil
