import Mathlib.Data.List.Basic
import Stencil.Files.Tree
import Stencil.Proofs.Files.Path
/-!
# What stands in a tree of files

A tree is looked at through `file?` and `isDirectory`; `get?_put` and `erase_put` are all that is needed of its
entries. A path that can be followed comes through directories (`resolve_eq_some`). Making the directories on a path
touches no file, and adds those that the steps come through, their `way` (`makeDirectories_eq_some`), or only the first
ones (`begun_makeDirectories`) if a file stands on the way or a name is too long (`makeDirectories_eq_none`).
-/

namespace Stencil

/-! ## Where steps lead -/

namespace Path

/-- Where the steps lead to, whatever stands there. -/
def target (place : Place) : List Step → Place
  | [] => place
  | .root :: steps => target [] steps
  | .here :: steps => target place steps
  | .up :: steps => target place.dropLast steps
  | .down name :: steps => target (place ++ [name]) steps

/-- The places that the steps come down to. -/
def way (place : Place) : List Step → List Place
  | [] => []
  | .root :: steps => way [] steps
  | .here :: steps => way place steps
  | .up :: steps => way place.dropLast steps
  | .down name :: steps => (place ++ [name]) :: way (place ++ [name]) steps

theorem target_append (place : Place) (steps more : List Step) :
    target place (steps ++ more) = target (target place steps) more := by
  induction steps generalizing place with
  | nil => rfl
  | cons s steps ih => cases s <;> exact ih _

theorem target_downs (place : Place) (names : List String) :
    target place (names.map .down) = place ++ names := by
  induction names generalizing place with
  | nil => simp [target]
  | cons n names ih => simp [target, ih]

theorem way_append (place : Place) (steps more : List Step) :
    way place (steps ++ more) = way place steps ++ way (target place steps) more := by
  induction steps generalizing place with
  | nil => rfl
  | cons s steps ih =>
    cases s with
    | down name => exact congrArg ((place ++ [name]) :: ·) (ih _)
    | _ => exact ih _

theorem way_dropLast_subset (place : Place) (steps : List Step) : way place steps.dropLast ⊆ way place steps := by
  rcases List.eq_nil_or_concat' steps with rfl | ⟨begin, s, rfl⟩
  · exact List.Subset.refl _
  · rw [List.dropLast_concat, way_append]
    exact List.subset_append_left _ _

theorem mem_way_downs_iff {place p : Place} {names : List String} :
    p ∈ way place (names.map .down) ↔ ∃ ns, ns ≠ [] ∧ ns <+: names ∧ p = place ++ ns := by
  induction names generalizing place with
  | nil =>
    simp only [List.map_nil, way, List.not_mem_nil, List.prefix_nil, false_iff]
    rintro ⟨ns, hne, rfl, -⟩
    exact hne rfl
  | cons n names ih =>
    rw [List.map_cons, way, List.mem_cons, ih]
    constructor
    · rintro (rfl | ⟨ns, -, hns, rfl⟩)
      · exact ⟨[n], by simp, by simp, rfl⟩
      · exact ⟨n :: ns, by simp, List.cons_prefix_cons.2 ⟨rfl, hns⟩, by simp⟩
    · rintro ⟨ns, hne, hns, rfl⟩
      obtain ⟨m, ns, rfl⟩ := List.exists_cons_of_ne_nil hne
      obtain ⟨rfl, hprefix⟩ := List.cons_prefix_cons.1 hns
      by_cases hnil : ns = []
      · exact .inl (by rw [hnil])
      · exact .inr ⟨ns, hnil, hprefix, by simp⟩

/-- A `.` at the beginning leads nowhere. -/
theorem way_steps (place : Place) (path : String) : way place (steps path) = way place (moves path) := by
  rw [steps_eq]
  split <;> rfl

theorem target_steps (place : Place) (path : String) : target place (steps path) = target place (moves path) := by
  rw [steps_eq]
  split <;> rfl

/-- Only the first step of a path goes to the root. -/
theorem root_not_mem_tail_steps (path : String) : Step.root ∉ (steps path).tail := by
  have hnames (ns : List String) : Step.root ∉ ns.filterMap step? := by
    intro hmem
    obtain ⟨n, -, hn⟩ := List.mem_filterMap.1 hmem
    exact (ne_of_step? hn).2 rfl
  unfold steps
  simp only
  split
  · exact hnames _
  · split
    · exact hnames _
    · exact fun hmem => hnames _ (List.mem_of_mem_tail hmem)

end Path

namespace FileTree

variable {tree tree' : FileTree} {place arrived : Place}

/-! ## Entries -/

@[simp]
theorem get?_nil (tree : FileTree) : tree.get? [] = some .directory := rfl

theorem get?_of_ne_nil (h : place ≠ []) : tree.get? place = tree.entries.lookup place := by
  rw [get?, if_neg (by simpa using h)]

theorem lookup_filter_ne (entries : List (Place × Entry)) {p : Place} (h : p ≠ place) :
    (entries.filter (·.1 != place)).lookup p = entries.lookup p := by
  induction entries with
  | nil => rfl
  | cons e rest ih =>
    obtain ⟨q, entry⟩ := e
    by_cases hq : q = place
    · have hp : (p == q) = false := by simpa [hq] using h
      rw [List.filter_cons_of_neg (by simp [hq]), ih, List.lookup_cons, hp]
    · rw [List.filter_cons_of_pos (by simp [hq]), List.lookup_cons, List.lookup_cons, ih]

theorem get?_put {entry : Entry} (h : place ≠ []) (p : Place) :
    (tree.put place entry).get? p = if p = place then some entry else tree.get? p := by
  by_cases hp : p = place
  · rw [if_pos hp, hp, get?_of_ne_nil h, put, List.lookup_cons_self]
  · rw [if_neg hp]
    by_cases hnil : p = []
    · rw [hnil, get?_nil, get?_nil]
    · have hne : (p == place) = false := by simpa using hp
      rw [get?_of_ne_nil hnil, get?_of_ne_nil hnil, put, List.lookup_cons, hne]
      exact lookup_filter_ne tree.entries hp

/-- What is put where nothing stands can be taken away again. -/
theorem erase_put {entry : Entry} (hne : place ≠ []) (h : tree.get? place = none) :
    (tree.put place entry).erase place = tree := by
  rw [get?_of_ne_nil hne, List.lookup_eq_none_iff] at h
  have hkeep : tree.entries.filter (·.1 != place) = tree.entries := by
    rw [List.filter_eq_self]
    intro e he
    simpa using Ne.symm (by simpa using h e he)
  simp [erase, put, hkeep]

theorem put_put (tree : FileTree) (place : Place) (entry entry' : Entry) :
    (tree.put place entry).put place entry' = tree.put place entry' := by
  simp [put]

theorem file?_eq_some_iff {contents : Bytes} :
    tree.file? place = some contents ↔ tree.get? place = some (.file contents) := by
  unfold file?
  split <;> simp_all

theorem isDirectory_iff : tree.isDirectory place = true ↔ tree.get? place = some .directory := by
  rw [isDirectory, beq_iff_eq]

theorem file?_put_file {contents : Bytes} (h : place ≠ []) (p : Place) :
    (tree.put place (.file contents)).file? p = if p = place then some contents else tree.file? p := by
  unfold file?
  rw [get?_put h]
  by_cases hp : p = place
  · simp only [if_pos hp]
  · simp only [if_neg hp]

/-! ## Following a path -/

/-- Steps that have been followed start from a directory. -/
theorem isDirectory_of_follow {steps : List Path.Step} (hroot : .root ∉ steps)
    (h : tree.follow place steps = some arrived) : tree.isDirectory place = true ∨ place = arrived := by
  cases steps with
  | nil => exact .inr (Option.some.inj h)
  | cons s steps =>
    cases s with
    | root => exact absurd List.mem_cons_self hroot
    | here | up | down =>
      simp only [follow] at h
      split at h
      · next hdir => exact .inl hdir
      · cases h

/-- Steps that have been followed come through directories only, but for the place that they lead to. -/
theorem follow_eq_some {steps : List Path.Step} (hroot : .root ∉ steps.tail)
    (h : tree.follow place steps = some arrived) :
    arrived = Path.target place steps ∧ ∀ p ∈ Path.way place steps, tree.isDirectory p = true ∨ p = arrived := by
  induction steps generalizing place with
  | nil => exact ⟨(Option.some.inj h).symm, by simp [Path.way]⟩
  | cons s steps ih =>
    rw [List.tail_cons] at hroot
    have hlater : .root ∉ steps.tail := fun hmem => hroot (List.mem_of_mem_tail hmem)
    cases s with
    | root => exact ih hlater h
    | here | up =>
      simp only [follow] at h
      split at h
      · exact ih hlater h
      · cases h
    | down name =>
      simp only [follow] at h
      split at h
      · obtain ⟨harrived, hway⟩ := ih hlater h
        refine ⟨harrived, ?_⟩
        rw [Path.way, List.forall_mem_cons]
        exact ⟨isDirectory_of_follow hroot h, hway⟩
      · cases h

/-- A path that leads to a place comes through directories only, but for that place. -/
theorem resolve_eq_some {current : Place} {path : String} (h : tree.resolve current path = some arrived) :
    arrived = Path.target current (Path.moves path) ∧
      ∀ p ∈ Path.way current (Path.moves path), tree.isDirectory p = true ∨ p = arrived := by
  have hfollow : tree.follow current (Path.steps path) = some arrived := by
    unfold resolve at h
    split at h
    · cases h
    · split at h
      · next hplace =>
        split at h
        · cases h
        · exact hplace.trans h
      · cases h
  rw [← Path.target_steps, ← Path.way_steps]
  exact follow_eq_some (Path.root_not_mem_tail_steps path) hfollow

/-! ## Making directories -/

theorem put_directory (hne : place ≠ []) (h : tree.get? place = none) :
    (∀ p, (tree.put place .directory).file? p = tree.file? p) ∧
      ∀ p, (tree.put place .directory).isDirectory p = true ↔ tree.isDirectory p = true ∨ p = place := by
  constructor
  · intro p
    unfold file?
    rw [get?_put hne]
    by_cases hp : p = place
    · subst hp
      simp [h]
    · simp only [if_neg hp]
  · intro p
    rw [isDirectory_iff, isDirectory_iff, get?_put hne]
    by_cases hp : p = place
    · simp [hp]
    · simp [hp]

/-- Some of the directories in the way `way` have been made, and nothing else has changed. -/
structure Begun (tree : FileTree) (way : List Place) (made : FileTree) : Prop where
  file? : ∀ p, made.file? p = tree.file? p
  stays : ∀ p, tree.isDirectory p = true → made.isDirectory p = true
  isDirectory : ∀ p, made.isDirectory p = true → tree.isDirectory p = true ∨ p ∈ way

/-- The directories in the way `way` have been made, and nothing else has changed. -/
structure Made (tree : FileTree) (way : List Place) (made : FileTree) : Prop extends tree.Begun way made where
  free : ∀ p ∈ way, tree.file? p = none
  complete : ∀ p ∈ way, made.isDirectory p = true

theorem Made.isDirectory_iff {way : List Place} {made : FileTree} (h : tree.Made way made) (p : Place) :
    made.isDirectory p = true ↔ tree.isDirectory p = true ∨ p ∈ way :=
  ⟨h.isDirectory p, fun hp => hp.elim (h.stays p) (h.complete p)⟩

section

variable {way : List Place} {made : FileTree} {p : Place}

theorem Begun.refl (tree : FileTree) (way : List Place) : tree.Begun way tree where
  file? _ := rfl
  stays _ h := h
  isDirectory _ h := .inl h

theorem Begun.cons (h : tree.Begun way made) (p : Place) : tree.Begun (p :: way) made where
  file? := h.file?
  stays := h.stays
  isDirectory q hq := (h.isDirectory q hq).imp_right (List.mem_cons_of_mem p)

/-- The first directory is made where nothing stands. -/
theorem Begun.of_put (hne : p ≠ []) (hnone : tree.get? p = none)
    (h : (tree.put p .directory).Begun way made) : tree.Begun (p :: way) made := by
  obtain ⟨hfile, hdir⟩ := put_directory hne hnone
  refine ⟨fun q => (h.file? q).trans (hfile q), fun q hq => h.stays q ((hdir q).2 (.inl hq)), fun q hq => ?_⟩
  rw [List.mem_cons, ← or_assoc, ← hdir q]
  exact h.isDirectory q hq

theorem Made.cons (h : tree.Made way made) (hdir : tree.isDirectory p = true) : tree.Made (p :: way) made where
  toBegun := h.toBegun.cons p
  free := List.forall_mem_cons.2 ⟨by rw [FileTree.file?, FileTree.isDirectory_iff.1 hdir], h.free⟩
  complete := List.forall_mem_cons.2 ⟨h.stays p hdir, h.complete⟩

theorem Made.of_put (hne : p ≠ []) (hnone : tree.get? p = none) (h : (tree.put p .directory).Made way made) :
    tree.Made (p :: way) made where
  toBegun := h.toBegun.of_put hne hnone
  free := by
    refine List.forall_mem_cons.2 ⟨by rw [FileTree.file?, hnone], fun q hq => ?_⟩
    rw [← (put_directory hne hnone).1 q]
    exact h.free q hq
  complete := List.forall_mem_cons.2 ⟨h.stays p (((put_directory hne hnone).2 p).2 (.inr rfl)), h.complete⟩

end

/-- However far it comes, making directories touches no file, and makes no directory elsewhere. -/
theorem begun_makeDirectories (tree : FileTree) (place : Place) (steps : List Path.Step) :
    tree.Begun (Path.way place steps) (tree.makeDirectories place steps).2 := by
  induction steps generalizing tree place with
  | nil => exact .refl tree []
  | cons s steps ih =>
    cases s with
    | root | here | up => exact ih _ _
    | down name =>
      simp only [makeDirectories, Path.way]
      split
      · split
        · exact (ih _ _).cons _
        · exact .refl _ _
        · next hnone => exact .of_put (by simp) hnone (ih _ _)
      · exact .refl _ _

/-- If it comes to the end, all directories are made. -/
theorem makeDirectories_eq_some {steps : List Path.Step}
    (h : (tree.makeDirectories place steps).1 = some arrived) :
    arrived = Path.target place steps ∧
      tree.Made (Path.way place steps) (tree.makeDirectories place steps).2 := by
  induction steps generalizing tree place with
  | nil =>
    cases h
    exact ⟨rfl, .refl tree [], by simp [Path.way], by simp [Path.way]⟩
  | cons s steps ih =>
    cases s with
    | root | here | up => exact ih h
    | down name =>
      simp only [makeDirectories, Path.way] at h ⊢
      split at h
      · next hshort =>
        rw [if_pos hshort]
        split at h
        · next hdir =>
          obtain ⟨harrived, hmade⟩ := ih h
          exact ⟨harrived, hmade.cons (isDirectory_iff.2 hdir)⟩
        · cases h
        · next hnone =>
          obtain ⟨harrived, hmade⟩ := ih h
          exact ⟨harrived, .of_put (by simp) hnone hmade⟩
      · cases h

/-- It does not come to the end only for a name that is too long, or a file on the way. -/
theorem makeDirectories_eq_none {steps : List Path.Step} (h : (tree.makeDirectories place steps).1 = none) :
    (∃ name, .down name ∈ steps ∧ Path.isShort name = false) ∨ ∃ p ∈ Path.way place steps, tree.file? p ≠ none := by
  induction steps generalizing tree place with
  | nil => cases h
  | cons s steps ih =>
    have hlater {tree' : FileTree} {place' : Place} (hfiles : ∀ p, tree'.file? p = tree.file? p)
        (hway : Path.way place' steps ⊆ Path.way place (s :: steps))
        (h : (tree'.makeDirectories place' steps).1 = none) :
        (∃ name, .down name ∈ s :: steps ∧ Path.isShort name = false) ∨
          ∃ p ∈ Path.way place (s :: steps), tree.file? p ≠ none := by
      rcases ih h with ⟨name, hname, hlong⟩ | ⟨p, hp, hfile⟩
      · exact .inl ⟨name, List.mem_cons_of_mem s hname, hlong⟩
      · exact .inr ⟨p, hway hp, hfiles p ▸ hfile⟩
    cases s with
    | root | here | up => exact hlater (fun _ => rfl) (List.Subset.refl _) h
    | down name =>
      simp only [makeDirectories] at h
      split at h
      · split at h
        · exact hlater (fun _ => rfl) (List.subset_cons_self _ _) h
        · next contents hfile =>
          exact .inr ⟨_, List.mem_cons_self, by rw [file?_eq_some_iff.2 hfile]; exact Option.some_ne_none _⟩
        · next hnone => exact hlater (put_directory (by simp) hnone).1 (List.subset_cons_self _ _) h
      · next hlong => exact .inl ⟨name, List.mem_cons_self, (Bool.not_eq_true _).mp hlong⟩

-- the directory `a` is made on the way to `b`, where it ends, and stays
example : let result := makeDirectories ⟨[(["b"], .file [])]⟩ [] [.down "a", .up, .down "b"]
    result.1 = none ∧ result.2.isDirectory ["a"] = true := by decide +kernel

end FileTree

end Stencil
