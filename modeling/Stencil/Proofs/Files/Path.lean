import Mathlib.Data.List.DropRight
import Mathlib.Data.Set.List
import Stencil.Files.Path
/-!
# What a path means

A path means a list of `moves`: the steps that it takes, without those that stay where they are. Joining and taking
the parent work on the text of paths; here is what they do to the moves. `moves_join` says that a relative path
goes on where the other one ends, and `parent?_eq_some` that the parent stops one move before the end.

`parts` are all texts between slashes. They fall apart as the text does, which the names do not quite.
-/

namespace Stencil.Path

/-! ## Parts -/

/-- The texts between the slashes. -/
def parts (path : String) : List String := (path.toList.splitOnP (· == '/')).map String.ofList

/-- The steps that lead anywhere. -/
def moves (path : String) : List Step := (steps path).filter (· != .here)

theorem parts_ne_nil (path : String) : parts path ≠ [] := by
  simp [parts, List.splitOnP_ne_nil]

@[simp]
theorem parts_empty : parts "" = [""] := rfl

theorem parts_append_slash (s t : String) : parts (s ++ "/" ++ t) = parts s ++ parts t := by
  have h : (s ++ "/" ++ t).toList = s.toList ++ '/' :: t.toList := by simp
  rw [parts, h, List.splitOnP_append_cons (p := (· == '/')) s.toList t.toList rfl, List.map_append]
  rfl

theorem parts_slash (rest : String) : parts ("/" ++ rest) = "" :: parts rest := parts_append_slash "" rest

theorem isAbsolute_iff {path : String} : isAbsolute path = true ↔ ∃ rest, path = "/" ++ rest := by
  constructor
  · intro h
    obtain ⟨rest, hrest⟩ : ∃ rest, path.toList = '/' :: rest := by
      cases hcs : path.toList with
      | nil => simp [isAbsolute, hcs] at h
      | cons c rest =>
        simp only [isAbsolute, hcs, List.head?_cons, beq_iff_eq, Option.some.injEq] at h
        exact ⟨rest, by rw [h]⟩
    exact ⟨String.ofList rest, String.toList_inj.1 (by simp [hrest])⟩
  · rintro ⟨rest, rfl⟩
    simp [isAbsolute]

theorem names_eq (path : String) :
    names path = if isAbsolute path then (parts path).tail else parts path := by
  cases h : isAbsolute path with
  | false => simp [names, parts, h]
  | true =>
    obtain ⟨rest, rfl⟩ := isAbsolute_iff.1 h
    rw [if_pos rfl, parts_slash, List.tail_cons]
    simp [names, parts, h]

/-! ## Moves -/

theorem step?_eq_none_iff {name : String} : step? name = none ↔ name = "" ∨ name = "." := by
  unfold step?
  by_cases h : name = "" ∨ name = "."
  · simp [h]
  · have h' := not_or.1 h
    by_cases hup : name = ".."
    · simp [hup]
    · simp [h'.1, h'.2, hup]

theorem step?_of_ne {name : String} (h : name ≠ "..") : step? name = none ∨ step? name = some (.down name) := by
  unfold step?
  split
  · exact .inl rfl
  · exact .inr (if_neg (by simpa using h))

theorem ne_of_step? {name : String} {s : Step} (h : step? name = some s) : s ≠ .here ∧ s ≠ .root := by
  unfold step? at h
  split at h
  · cases h
  · split at h
    · cases h
      simp
    · cases h
      simp

theorem eq_of_step? {name down : String} (h : step? name = some (.down down)) : name = down := by
  have hup : name ≠ ".." := by
    rintro rfl
    cases h
  rcases step?_of_ne hup with hnone | hname
  · rw [hnone] at h
    cases h
  · rw [hname] at h
    cases h
    rfl

/-- The root of an absolute path, and the moves of the parts. -/
def movesOf (absolute : Bool) (ns : List String) : List Step :=
  (if absolute then [.root] else []) ++ ns.filterMap step?

theorem filter_movesOf (absolute : Bool) (ns : List String) :
    (movesOf absolute ns).filter (· != .here) = movesOf absolute ns := by
  rw [List.filter_eq_self]
  intro s hs
  rcases List.mem_append.1 hs with hs | hs
  · cases absolute with
    | false => cases hs
    | true =>
      rw [if_pos rfl, List.mem_singleton] at hs
      subst hs
      rfl
  · obtain ⟨n, -, hn⟩ := List.mem_filterMap.1 hs
    simpa using (ne_of_step? hn).1

theorem steps_eq_movesOf (path : String) :
    steps path =
      (if (parts path).head? = some "." then [.here] else []) ++ movesOf (isAbsolute path) (parts path) := by
  unfold steps movesOf
  rw [names_eq]
  cases h : isAbsolute path with
  | true =>
    obtain ⟨rest, rfl⟩ := isAbsolute_iff.1 h
    have hnone : step? "" = none := rfl
    simp [parts_slash, hnone]
  | false =>
    have hnone : step? "." = none := rfl
    simp only [Bool.false_eq_true, if_false, List.nil_append]
    split
    · next rest hparts => simp [hparts, hnone]
    · next hother =>
      rw [if_neg, List.nil_append]
      intro hhead
      obtain ⟨rest, hparts⟩ := List.head?_eq_some_iff.1 hhead
      exact hother rest hparts

theorem moves_eq (path : String) : moves path = movesOf (isAbsolute path) (parts path) := by
  unfold moves
  rw [steps_eq_movesOf, List.filter_append, filter_movesOf]
  split <;> rfl

/-- The steps are the moves, but for a `.` at the beginning. -/
theorem steps_eq (path : String) :
    steps path = (if (parts path).head? = some "." then [.here] else []) ++ moves path := by
  rw [moves_eq, steps_eq_movesOf]

@[simp]
theorem moves_empty : moves "" = [] := rfl

theorem fileName?_of_moves {path name : String} {before : List Step} (h : moves path = before ++ [.down name]) :
    fileName? path = some name := by
  unfold fileName?
  rw [steps_eq, h, ← List.append_assoc, List.getLast?_concat]

/-! ## Paths that stay below -/

theorem isContained_iff_moves {path : String} :
    isContained path = true ↔ ∃ ns : List String, moves path = ns.map .down := by
  have hsteps : isContained path = true ↔ ∀ s ∈ steps path, s = .here ∨ ∃ n, .down n = s := by
    rw [isContained, List.all_eq_true]
    refine forall₂_congr fun s _ => ?_
    cases s <;> simp
  have hmoves : isContained path = true ↔ ∀ s ∈ moves path, s ∈ Set.range Step.down := by
    simp only [hsteps, moves, List.mem_filter, bne_iff_ne, and_imp, Set.mem_range, or_iff_not_imp_left]
  have hlist : moves path ∈ Set.range (List.map Step.down) ↔ ∀ s ∈ moves path, s ∈ Set.range Step.down := by
    rw [Set.range_list_map]
    rfl
  rw [hmoves, ← hlist, Set.mem_range]
  exact exists_congr fun ns => eq_comm

/-- A path stays below where it starts if it is relative and never goes up. -/
theorem isContained_iff {path : String} :
    isContained path = true ↔ isAbsolute path = false ∧ ".." ∉ parts path := by
  rw [isContained_iff_moves, moves_eq, movesOf]
  constructor
  · rintro ⟨ns, h⟩
    have hdown : ∀ s ∈ (if isAbsolute path then [Step.root] else []) ++ (parts path).filterMap step?,
        ∃ n, s = .down n := by
      intro s hs
      rw [h] at hs
      obtain ⟨n, -, rfl⟩ := List.mem_map.1 hs
      exact ⟨n, rfl⟩
    refine ⟨?_, fun hup => ?_⟩
    · by_contra habs
      rw [Bool.not_eq_false] at habs
      obtain ⟨n, hn⟩ := hdown .root (by simp [habs])
      cases hn
    · obtain ⟨n, hn⟩ := hdown .up (List.mem_append_right _ (List.mem_filterMap.2 ⟨"..", hup, rfl⟩))
      cases hn
  · rintro ⟨habs, hup⟩
    rw [habs, if_neg Bool.false_ne_true, List.nil_append]
    generalize parts path = ns at hup
    induction ns with
    | nil => exact ⟨[], rfl⟩
    | cons n ns ih =>
      rw [List.mem_cons, not_or] at hup
      obtain ⟨downs, hdowns⟩ := ih hup.2
      rw [List.filterMap_cons, hdowns]
      rcases step?_of_ne (Ne.symm hup.1) with h | h
      · rw [h]
        exact ⟨downs, rfl⟩
      · rw [h]
        exact ⟨n :: downs, rfl⟩

/-! ## Joining -/

theorem isAbsolute_append {root : String} (h : root ≠ "") (s : String) :
    isAbsolute (root ++ s) = isAbsolute root := by
  have hne : root.toList ≠ [] := by simpa using h
  obtain ⟨c, cs, hcs⟩ := List.exists_cons_of_ne_nil hne
  simp [isAbsolute, hcs]

/-- The parts of a relative path follow those of the other one, which may have had an empty one at its end. -/
theorem join_parts {root next : String} (hroot : root ≠ "") (hnext : isAbsolute next = false) :
    isAbsolute (join root next) = isAbsolute root ∧ ∃ before, before ≠ [] ∧
      parts (join root next) = before ++ parts next ∧ (parts root = before ∨ parts root = before ++ [""]) := by
  unfold join
  rw [hnext, if_neg Bool.false_ne_true]
  split
  · next hend =>
    -- the slash at the end of the root has an empty part behind it, which `next` takes the place of
    obtain ⟨begin, hbegin⟩ : ∃ begin, root = begin ++ "/" ++ "" := by
      simp only [String.isEmpty_iff, hroot, Bool.or_eq_true, false_or, beq_iff_eq] at hend
      obtain ⟨cs, hcs⟩ := List.getLast?_eq_some_iff.1 hend
      exact ⟨String.ofList cs, String.toList_inj.1 (by simp [hcs])⟩
    have hjoined : root ++ next = begin ++ "/" ++ next := by rw [hbegin, String.append_empty]
    refine ⟨isAbsolute_append hroot next, parts begin, parts_ne_nil begin, ?_, .inr ?_⟩
    · rw [hjoined, parts_append_slash]
    · rw [hbegin, parts_append_slash, parts_empty]
  · refine ⟨?_, parts root, parts_ne_nil root, parts_append_slash root next, .inl rfl⟩
    rw [String.append_assoc]
    exact isAbsolute_append hroot _

theorem join_empty {next : String} (hnext : isAbsolute next = false) : join "" next = next := by
  simp [join, hnext]

/-- A relative path goes on where the other one ends. -/
theorem moves_join (root : String) {next : String} (hnext : isAbsolute next = false) :
    moves (join root next) = moves root ++ moves next := by
  by_cases hroot : root = ""
  · rw [hroot, join_empty hnext, moves_empty, List.nil_append]
  · obtain ⟨habs, before, -, hparts, hbefore⟩ := join_parts hroot hnext
    have hsame : (parts root).filterMap step? = before.filterMap step? := by
      rcases hbefore with h | h
      · rw [h]
      · rw [h, List.filterMap_append]
        exact List.append_nil _
    simp only [moves_eq, movesOf, habs, hnext, hparts, hsame, List.filterMap_append, List.append_assoc]
    simp

/-- No `.` comes between a path and one that goes on from it. -/
theorem steps_join {root next : String} (hroot : root ≠ "") (hnext : isAbsolute next = false) :
    steps (join root next) = steps root ++ moves next := by
  obtain ⟨-, before, hne, hparts, hbefore⟩ := join_parts hroot hnext
  have hhead : (parts (join root next)).head? = (parts root).head? := by
    obtain ⟨n, ns, rfl⟩ := List.exists_cons_of_ne_nil hne
    rw [hparts]
    rcases hbefore with h | h <;> rw [h] <;> rfl
  rw [steps_eq, moves_join root hnext, hhead, steps_eq root, List.append_assoc]

theorem wantsDirectory_join (root : String) {next : String} (hnext : isAbsolute next = false) :
    wantsDirectory (join root next) = wantsDirectory next := by
  by_cases hroot : root = ""
  · rw [hroot, join_empty hnext]
  · obtain ⟨habs, before, hne, hparts, -⟩ := join_parts hroot hnext
    obtain ⟨n, ns, rfl⟩ := List.exists_cons_of_ne_nil hne
    have hlast : (names (join root next)).getLast? = (names next).getLast? := by
      have hsome : (parts next).getLast? = some _ := List.getLast?_eq_some_getLast (parts_ne_nil next)
      rw [names_eq, names_eq, hnext, hparts, if_neg Bool.false_ne_true]
      split
      · rw [List.cons_append, List.tail_cons, List.getLast?_append, hsome, Option.some_or]
      · rw [List.getLast?_append, hsome, Option.some_or]
    unfold wantsDirectory
    rw [hlast]

/-- A path that does not demand a directory leads somewhere. -/
theorem exists_moves_append {path : String} (h : wantsDirectory path = false) :
    ∃ before s, moves path = before ++ [s] := by
  have hne : moves path ≠ [] := by
    intro hnil
    rw [moves_eq, movesOf, List.append_eq_nil_iff] at hnil
    have habs : isAbsolute path = false := by
      by_contra habs
      simp [habs] at hnil
    obtain ⟨last, hlast⟩ : ∃ last, (parts path).getLast? = some last :=
      ⟨_, List.getLast?_eq_some_getLast (parts_ne_nil path)⟩
    have hnone := List.filterMap_eq_nil_iff.1 hnil.2 last (List.mem_of_getLast? hlast)
    rw [wantsDirectory, names_eq, habs, if_neg Bool.false_ne_true, hlast] at h
    rcases step?_eq_none_iff.1 hnone with rfl | rfl <;> simp at h
  exact ⟨_, _, (List.dropLast_append_getLast hne).symm⟩

/-! ## Parents -/

/-- A path is the text of its names. -/
theorem ofNames_names (path : String) : ofNames (isAbsolute path) (names path) = path := by
  have hparts (p : String) : "/".intercalate (parts p) = p := by
    have h : ['/'].intercalate (p.toList.splitOn '/') = p.toList := List.intercalate_splitOn '/'
    rw [List.splitOn_eq_splitOnP] at h
    exact String.toList_inj.1 (by simpa [String.toList_intercalate, parts, Function.comp_def] using h)
  unfold ofNames
  rw [names_eq]
  cases h : isAbsolute path with
  | false => simp [hparts]
  | true =>
    obtain ⟨rest, rfl⟩ := isAbsolute_iff.1 h
    simp [parts_slash, hparts]

theorem prefix_trimNames (absolute : Bool) (ns : List String) : trimNames absolute ns <+: ns := by
  have hkept := List.rdropWhile_prefix (fun name => (step? name).isNone) ns
  unfold trimNames
  split
  · cases ns with
    | nil => exact List.prefix_refl _
    | cons n ns =>
      simp only
      split
      · exact ⟨ns, rfl⟩
      · exact List.nil_prefix
  · exact hkept

theorem exists_ofNames_append (absolute : Bool) {ns ms : List String} (h : ns <+: ms) :
    ∃ rest, ofNames absolute ms = ofNames absolute ns ++ rest := by
  obtain ⟨ks, rfl⟩ := h
  unfold ofNames
  by_cases hns : ns = []
  · exact ⟨"/".intercalate ks, by simp [hns]⟩
  · by_cases hks : ks = []
    · exact ⟨"", by simp [hks]⟩
    · exact ⟨"/" ++ "/".intercalate ks, by
        rw [String.intercalate_append_of_ne_nil hns hks]
        simp [String.append_assoc]⟩

/-- What is trimmed makes no steps. -/
theorem filterMap_trimNames (absolute : Bool) (ns : List String) :
    (trimNames absolute ns).filterMap step? = ns.filterMap step? ∧
      (trimNames absolute ns).dropLast.filterMap step? = (ns.filterMap step?).dropLast := by
  have hns := List.takeWhile_append_dropWhile (p := fun name => (step? name).isNone) (l := ns.reverse)
  have hlost : ((ns.reverse.takeWhile fun name => (step? name).isNone).reverse).filterMap step? = [] := by
    rw [List.filterMap_eq_nil_iff]
    intro n hn
    simpa using List.mem_takeWhile_imp (List.mem_reverse.1 hn)
  have hsplit := congrArg List.reverse hns
  rw [List.reverse_append, List.reverse_reverse] at hsplit
  have hbegins := prefix_trimNames absolute ns
  unfold trimNames at hbegins ⊢
  split
  · next hnil =>
    -- no name makes a step
    rw [hnil, List.reverse_nil, List.nil_append] at hsplit
    rw [hsplit] at hlost
    have hnone (kept : List String) (h : kept ⊆ ns) : kept.filterMap step? = [] :=
      List.filterMap_eq_nil_iff.2 fun n hn => List.filterMap_eq_nil_iff.1 hlost n (h hn)
    rw [hnil] at hbegins
    rw [hlost]
    exact ⟨hnone _ hbegins.subset, hnone _ (List.Subset.trans (List.dropLast_subset _) hbegins.subset)⟩
  · next kept hkept =>
    obtain ⟨last, init, hrev⟩ := List.exists_cons_of_ne_nil hkept
    have hlast := List.head_dropWhile_not (fun name => (step? name).isNone) hkept
    simp only [hrev, List.head_cons] at hlast
    obtain ⟨s, hs⟩ := Option.isSome_iff_exists.1 (by simpa [Option.isSome_iff_ne_none] using hlast)
    rw [hrev, List.reverse_cons] at hsplit ⊢
    have hall : ns.filterMap step? = init.reverse.filterMap step? ++ [s] := by
      rw [← hsplit, List.filterMap_append, hlost, List.append_nil, List.filterMap_append]
      simp [hs]
    rw [hall, List.dropLast_concat, List.dropLast_concat, List.filterMap_append]
    simp [hs]

theorem slash_not_mem_parts {path n : String} (h : n ∈ parts path) : '/' ∉ n.toList := by
  obtain ⟨piece, hpiece, rfl⟩ := List.mem_map.1 h
  rw [String.toList_ofList]
  clear h
  generalize path.toList = cs at hpiece
  induction cs generalizing piece with
  | nil =>
    rw [List.splitOnP_nil, List.mem_singleton] at hpiece
    simp [hpiece]
  | cons c cs ih =>
    obtain ⟨first, rest, hcs⟩ := List.exists_cons_of_ne_nil (List.splitOnP_ne_nil (· == '/') cs)
    rw [List.splitOnP_cons_eq_if_modifyHead] at hpiece
    split at hpiece
    · rcases List.mem_cons.1 hpiece with rfl | hpiece
      · exact List.not_mem_nil
      · exact ih piece hpiece
    · next hc =>
      rw [hcs] at hpiece ih
      rcases List.mem_cons.1 hpiece with rfl | hpiece
      · rw [List.mem_cons, not_or]
        exact ⟨fun h => hc (beq_iff_eq.2 h.symm), ih first List.mem_cons_self⟩
      · exact ih piece (List.mem_cons_of_mem _ hpiece)

theorem names_subset_parts (path : String) : names path ⊆ parts path := by
  rw [names_eq]
  split
  · exact fun _ => List.mem_of_mem_tail
  · exact List.Subset.refl _

/-- Names without a slash can be told apart between slashes. -/
theorem parts_intercalate {ns : List String} (h : ∀ n ∈ ns, '/' ∉ n.toList) :
    parts ("/".intercalate ns) = if ns = [] then [""] else ns := by
  by_cases hns : ns = []
  · simp [hns]
  · have hsplit : (['/'].intercalate (ns.map String.toList)).splitOnP (· == '/') = ns.map String.toList := by
      rw [← List.splitOn_eq_splitOnP]
      refine List.splitOn_intercalate '/' (fun l hl => ?_) (by simpa using hns)
      obtain ⟨n, hn, rfl⟩ := List.mem_map.1 hl
      exact h n hn
    have htext : ("/".intercalate ns).toList = ['/'].intercalate (ns.map String.toList) :=
      String.toList_intercalate
    simp [parts, htext, hsplit, hns, Function.comp_def]

/-- The name can stand between slashes. -/
def Plain (name : String) : Prop := name ≠ "" ∧ '/' ∉ name.toList

instance (name : String) : Decidable (Plain name) :=
  inferInstanceAs (Decidable (name ≠ "" ∧ '/' ∉ name.toList))

/-- Different names have different texts. -/
theorem intercalate_inj {ns ms : List String} (hns : ∀ n ∈ ns, Plain n) (hms : ∀ m ∈ ms, Plain m)
    (h : "/".intercalate ns = "/".intercalate ms) : ns = ms := by
  have hparts : (if ns = [] then [""] else ns) = if ms = [] then [""] else ms := by
    rw [← parts_intercalate fun n hn => (hns n hn).2, ← parts_intercalate fun m hm => (hms m hm).2, h]
  have hempty : ∀ {ls : List String}, (∀ l ∈ ls, Plain l) → ls ≠ [""] := by
    rintro ls hls rfl
    exact (hls "" (by simp)).1 rfl
  split_ifs at hparts with hn hm hm
  · rw [hn, hm]
  · exact absurd hparts.symm (hempty hms)
  · exact absurd hparts (hempty hns)
  · exact hparts

/-- The first names of a path mean what they mean there. -/
theorem names_ofNames {path : String} {ns : List String} (h : ns <+: names path) :
    isAbsolute (ofNames (isAbsolute path) ns) = isAbsolute path ∧
      names (ofNames (isAbsolute path) ns) = if ns = [] then [""] else ns := by
  have hslash : ∀ n ∈ ns, '/' ∉ n.toList := fun n hn =>
    slash_not_mem_parts (names_subset_parts path (h.subset hn))
  have hparts := parts_intercalate hslash
  have habs : isAbsolute (ofNames (isAbsolute path) ns) = isAbsolute path := by
    cases hpath : isAbsolute path with
    | true => simp [ofNames, isAbsolute]
    | false =>
      by_contra hofNames
      rw [Bool.not_eq_false] at hofNames
      obtain ⟨rest, hrest⟩ := exists_ofNames_append false h
      obtain ⟨more, hmore⟩ := isAbsolute_iff.1 hofNames
      have htext := ofNames_names path
      rw [hpath, hrest, hmore, String.append_assoc] at htext
      rw [isAbsolute_iff.2 ⟨_, htext.symm⟩] at hpath
      cases hpath
  refine ⟨habs, ?_⟩
  rw [names_eq, habs]
  unfold ofNames
  cases isAbsolute path with
  | true => rw [if_pos rfl, if_pos rfl, parts_slash, List.tail_cons, hparts]
  | false => simp [hparts]

theorem moves_eq_names (path : String) : moves path = movesOf (isAbsolute path) (names path) := by
  rw [moves_eq, names_eq]
  cases h : isAbsolute path with
  | false => rw [if_neg Bool.false_ne_true]
  | true =>
    obtain ⟨rest, rfl⟩ := isAbsolute_iff.1 h
    rw [if_pos rfl, parts_slash]
    rfl

theorem isUsable_iff {path : String} :
    isUsable path = true ↔ isAddressable path = true ∧ ∀ n ∈ names path, isShort n = true := by
  rw [isUsable, Bool.and_eq_true, List.all_eq_true]

/-- What stands at the beginning of a path is looked up if the path is. -/
theorem isAddressable_of_append {path rest : String} (h : isAddressable (path ++ rest) = true) :
    isAddressable path = true := by
  simp only [isAddressable, Bool.and_eq_true, decide_eq_true_eq, Bool.not_eq_true', List.contains_eq_mem,
    decide_eq_false_iff_not, String.utf8ByteSize_append, String.toList_append, List.mem_append, not_or] at h ⊢
  exact ⟨Nat.le_trans (Nat.le_add_right _ _) h.1, h.2.1⟩

theorem isUsable_ofNames {path : String} {ns : List String} (h : ns <+: names path)
    (husable : isUsable path = true) : isUsable (ofNames (isAbsolute path) ns) = true := by
  obtain ⟨rest, hrest⟩ := exists_ofNames_append (isAbsolute path) h
  rw [ofNames_names] at hrest
  rw [isUsable_iff] at husable ⊢
  obtain ⟨haddressable, hnames⟩ := husable
  refine ⟨isAddressable_of_append (hrest ▸ haddressable), ?_⟩
  rw [(names_ofNames h).2]
  split
  · intro n hn
    rw [List.mem_singleton.1 hn]
    decide +kernel
  · exact fun n hn => hnames n (h.subset hn)

theorem mem_names_of_mem_steps {path name : String} (h : .down name ∈ steps path) : name ∈ names path := by
  rw [steps_eq, moves_eq_names, movesOf, List.mem_append, List.mem_append] at h
  rcases h with h | h | h
  · split at h <;> simp at h
  · split at h <;> simp at h
  · obtain ⟨n, hn, hstep⟩ := List.mem_filterMap.1 h
    rwa [← eq_of_step? hstep]

theorem filterMap_ne_nil_of_trimNames {ns : List String} (h : trimNames true ns ≠ []) :
    ns.filterMap step? ≠ [] := by
  intro hnil
  have hall : ns.reverse.dropWhile (fun name => (step? name).isNone) = [] := by
    rw [List.dropWhile_eq_nil_iff]
    intro n hn
    simpa using List.filterMap_eq_nil_iff.1 hnil n (List.mem_reverse.1 hn)
  apply h
  unfold trimNames
  rw [hall]
  cases ns with
  | nil => rfl
  | cons n ns =>
    have hn := List.filterMap_eq_nil_iff.1 hnil n List.mem_cons_self
    simp [isStep, hn]

theorem parent?_eq (path : String) :
    parent? path = if trimNames (isAbsolute path) (names path) = [] then none
      else some (ofNames (isAbsolute path)
        (trimNames (isAbsolute path) (trimNames (isAbsolute path) (names path)).dropLast)) := by
  unfold parent?
  simp only
  generalize trimNames (isAbsolute path) (names path) = kept
  cases kept <;> rfl

/-- The parent of a path stops one move before its end, and a file can have it if one can have the path. -/
theorem parent?_eq_some {path parent : String} (h : parent? path = some parent) :
    moves parent = (moves path).dropLast ∧ (isUsable path = true → isUsable parent = true) := by
  rw [parent?_eq] at h
  split at h
  · cases h
  · next hkept =>
    cases h
    generalize hns : trimNames (isAbsolute path) (trimNames (isAbsolute path) (names path)).dropLast = ns
    have hmoves : ns.filterMap step? = ((names path).filterMap step?).dropLast := by
      rw [← hns, (filterMap_trimNames _ _).1, (filterMap_trimNames _ _).2]
    have hbegins : ns <+: names path := by
      rw [← hns]
      exact ((prefix_trimNames _ _).trans (List.dropLast_prefix _)).trans (prefix_trimNames _ _)
    refine ⟨?_, isUsable_ofNames hbegins⟩
    obtain ⟨habs, hnames⟩ := names_ofNames hbegins
    have hempty : movesOf (isAbsolute path) (if ns = [] then [""] else ns) = movesOf (isAbsolute path) ns := by
      split
      · next hnil =>
        rw [hnil]
        rfl
      · rfl
    rw [moves_eq_names, habs, hnames, hempty, moves_eq_names path, movesOf, movesOf, hmoves]
    cases hpath : isAbsolute path with
    | false => rfl
    | true =>
      rw [hpath] at hkept
      exact (List.dropLast_append_of_ne_nil (filterMap_ne_nil_of_trimNames hkept)).symm

/-- A path that ends with a name has a parent. -/
theorem exists_parent? {path name : String} {before : List Step} (h : moves path = before ++ [.down name]) :
    ∃ parent, parent? path = some parent := by
  rw [parent?_eq, if_neg]
  · exact ⟨_, rfl⟩
  · intro hnil
    have hall := (filterMap_trimNames (isAbsolute path) (names path)).1
    rw [hnil] at hall
    rw [moves_eq_names, movesOf, ← hall, List.filterMap_nil, List.append_nil] at h
    have hlast := congrArg List.getLast? h
    split at hlast <;> simp at hlast

end Stencil.Path
