import Mathlib.Data.List.Lex
import Mathlib.Data.List.Nodup
import Mathlib.Data.String.Basic
import Stencil.Proofs.Files.Tree
/-!
# The files of a tree in order

A tree is `Proper` if it has one entry for a place and its names can stand between slashes; every tree that is built of
such entries is (`proper_ofEntries`). Then the files below a place are listed completely (`mem_filesBelow_iff`) and
in strictly ascending order of the names from there on (`pairwise_filesBelow`).
-/

namespace Stencil.FileTree

variable {tree : FileTree} {place : Place}

/-- No place has two entries, and all names can stand between slashes. -/
structure Proper (tree : FileTree) : Prop where
  nodup : (tree.entries.map (·.1)).Nodup
  plain : ∀ e ∈ tree.entries, ∀ name ∈ e.1, Path.Plain name

/-! ## Trees are proper -/

theorem Proper.put (h : tree.Proper) (hplace : ∀ name ∈ place, Path.Plain name) (entry : Entry) :
    (tree.put place entry).Proper := by
  have hsub : (tree.entries.filter (·.1 != place)).Sublist tree.entries := List.filter_sublist
  constructor
  · rw [FileTree.put, List.map_cons, List.nodup_cons]
    refine ⟨?_, (hsub.map _).nodup h.nodup⟩
    intro hmem
    obtain ⟨e, he, heq⟩ := List.mem_map.1 hmem
    simpa [heq] using (List.mem_filter.1 he).2
  · rw [FileTree.put, List.forall_mem_cons]
    exact ⟨hplace, fun e he => h.plain e (hsub.subset he)⟩

theorem Proper.withAncestors (h : tree.Proper) (hplace : ∀ name ∈ place, Path.Plain name) :
    (tree.withAncestors place).Proper := by
  unfold FileTree.withAncestors
  refine List.foldlRecOn _ _ h fun t ht n _ => ?_
  simp only
  split
  · exact ht
  · exact ht.put (fun name hname => hplace name (List.mem_of_mem_take hname)) .directory

/-- A tree that is built of entries with plain names is proper. -/
theorem proper_ofEntries {entries : List (Place × Entry)} (h : ∀ e ∈ entries, ∀ name ∈ e.1, Path.Plain name) :
    (ofEntries entries).Proper := by
  refine List.foldlRecOn _ _ ⟨List.nodup_nil, nofun⟩ fun t ht e he => ?_
  exact (ht.withAncestors (h e he)).put (h e he) e.2

/-! ## All files -/

/-- A place has the entry that stands for it in the list. -/
theorem Proper.get?_eq_some_iff (h : tree.Proper) (hne : place ≠ []) {entry : Entry} :
    tree.get? place = some entry ↔ (place, entry) ∈ tree.entries := by
  rw [get?_of_ne_nil hne, List.lookup_eq_some_iff]
  constructor
  · rintro ⟨before, after, heq, -⟩
    exact heq ▸ by simp
  · intro hmem
    obtain ⟨before, after, heq⟩ := List.append_of_mem hmem
    refine ⟨before, after, heq, fun e he => ?_⟩
    have hnodup := h.nodup
    rw [heq, List.map_append, List.map_cons, List.nodup_middle, List.nodup_cons] at hnodup
    rw [bne_iff_ne]
    intro hplace
    exact hnodup.1 (List.mem_append_left _ (List.mem_map.2 ⟨e, he, hplace.symm⟩))

theorem precedes_iff {p q : Place} : precedes p q = true ↔ ¬ q < p := by
  induction p generalizing q with
  | nil => simp [precedes]
  | cons m ms ih =>
    cases q with
    | nil => simp [precedes, List.nil_lt_cons]
    | cons n ns =>
      rw [precedes, List.cons_lt_cons_iff]
      by_cases hmn : m = n
      · simp [hmn, ih]
      · have hlt : m < n ↔ ¬ n < m := ⟨fun h => h.not_gt, fun h => lt_of_le_of_ne (not_lt.1 h) hmn⟩
        simp [hmn, Ne.symm hmn, hlt]

theorem mem_files_iff (h : tree.Proper) (hne : place ≠ []) {contents : Bytes} :
    (place, contents) ∈ tree.files ↔ tree.file? place = some contents := by
  rw [file?_eq_some_iff, h.get?_eq_some_iff hne, files, List.mem_mergeSort, List.mem_filterMap]
  constructor
  · rintro ⟨⟨p, _ | _⟩, hmem, heq⟩
    · cases heq
      exact hmem
    · cases heq
  · exact fun hmem => ⟨_, hmem, rfl⟩

/-- The files stand in the order of their places, each place once. -/
theorem pairwise_files (h : tree.Proper) : tree.files.Pairwise fun e f => e.1 < f.1 := by
  have hle : ∀ {p q : Place}, precedes p q = true ↔ p ≤ q := precedes_iff.trans not_lt
  unfold files
  generalize hfound : tree.entries.filterMap _ = found
  have hsorted : (found.mergeSort fun a b => precedes a.1 b.1).Pairwise fun e f => e.1 ≤ f.1 := by
    refine (List.pairwise_mergeSort ?_ ?_ found).imp hle.1
    · intro a b c hab hbc
      exact hle.2 ((hle.1 hab).trans (hle.1 hbc))
    · intro a b
      rw [Bool.or_eq_true, hle, hle]
      exact le_total a.1 b.1
  have hfresh : found.Pairwise fun e f => e.1 ≠ f.1 := by
    rw [← hfound]
    refine (List.pairwise_map.1 h.nodup).filterMap _ ?_
    rintro ⟨p, _ | _⟩ ⟨q, _ | _⟩ hne _ ⟨⟩ _ ⟨⟩
    exact hne
  have hdistinct : (found.mergeSort fun a b => precedes a.1 b.1).Pairwise fun e f => e.1 ≠ f.1 :=
    ((List.mergeSort_perm found _).pairwise_iff Ne.symm).2 hfresh
  exact hsorted.imp₂ (fun _ _ => lt_of_le_of_ne) hdistinct

/-! ## Files below a place -/

/-- The file as it is seen from the place, if it lies below. -/
def below? (root : Place) : Place × Bytes → Option (Place × Bytes)
  | (p, contents) =>
    match root.isPrefixOf? p with
    | some [] => none
    | some below => some (below, contents)
    | none => none

theorem filesBelow_eq (tree : FileTree) (root : Place) : tree.filesBelow root = tree.files.filterMap (below? root) :=
  rfl

theorem below?_eq_some_iff {root : Place} {e : Place × Bytes} {below : Place} {contents : Bytes} :
    below? root e = some (below, contents) ↔ below ≠ [] ∧ e = (root ++ below, contents) := by
  obtain ⟨p, c⟩ := e
  simp only [below?]
  constructor
  · intro h
    split at h
    · cases h
    · next hne hstrip =>
      cases h
      exact ⟨hne, by rw [List.isPrefixOf?_eq_some_iff_append_eq.1 hstrip]⟩
    · cases h
  · rintro ⟨hne, heq⟩
    cases heq
    have hstrip : root.isPrefixOf? (root ++ below) = some below := List.isPrefixOf?_eq_some_iff_append_eq.2 rfl
    rw [hstrip]
    cases below with
    | nil => exact absurd rfl hne
    | cons name below => rfl

theorem mem_filesBelow_iff (h : tree.Proper) {root below : Place} {contents : Bytes} :
    (below, contents) ∈ tree.filesBelow root ↔ below ≠ [] ∧ tree.file? (root ++ below) = some contents := by
  rw [filesBelow_eq, List.mem_filterMap]
  constructor
  · rintro ⟨e, hmem, hbelow⟩
    obtain ⟨hne, rfl⟩ := below?_eq_some_iff.1 hbelow
    exact ⟨hne, (mem_files_iff h (by simp [hne])).1 hmem⟩
  · rintro ⟨hne, hfile⟩
    exact ⟨_, (mem_files_iff h (by simp [hne])).2 hfile, below?_eq_some_iff.2 ⟨hne, rfl⟩⟩

theorem pairwise_filesBelow (h : tree.Proper) (root : Place) :
    (tree.filesBelow root).Pairwise fun e f => e.1 < f.1 := by
  rw [filesBelow_eq]
  refine (pairwise_files h).filterMap _ ?_
  rintro e f hlt ⟨below, contents⟩ he ⟨below', contents'⟩ hf
  obtain ⟨-, rfl⟩ := below?_eq_some_iff.1 he
  obtain ⟨-, rfl⟩ := below?_eq_some_iff.1 hf
  by_contra hge
  rcases eq_or_lt_of_le (not_lt.1 hge) with rfl | hgt
  · exact lt_irrefl _ hlt
  · exact hlt.not_gt (List.append_left_lt hgt)

end Stencil.FileTree
