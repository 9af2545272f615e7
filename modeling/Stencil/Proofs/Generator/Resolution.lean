import Mathlib.Data.List.Forall2
import Mathlib.Data.List.Nodup
import Stencil.Proofs.Generator.Sources
import Stencil.Proofs.Schema.Growth
/-!
# What a mapping is resolved to

The names of a mapping become positions once. `resolve_eq_ok` says to which: for each source name, where it stands
first, the positions of all sources with that name in the order of registration, none of them twice; and for each
model name the position of the model.

`Resolves` says the same without the loops, as an order on the positions that belong to the mapping, and what is
reported where there is no mapping. `resolve_eq_iff` is that resolution does just this.
-/

namespace Stencil

/-- The list falls apart at the first element that does not have the property. -/
def FirstOutside {α : Type} (p : α → Prop) (xs : List α) (x : α) : Prop :=
  ∃ before after, xs = before ++ x :: after ∧ (∀ y ∈ before, p y) ∧ ¬ p x

theorem forall_or_firstOutside {α : Type} (p : α → Prop) (xs : List α) :
    (∀ x ∈ xs, p x) ∨ ∃ x, FirstOutside p xs x := by
  induction xs with
  | nil => exact .inl nofun
  | cons x xs ih =>
    by_cases hx : p x
    · rcases ih with h | ⟨y, before, after, rfl, hbefore, hy⟩
      · exact .inl (List.forall_mem_cons.2 ⟨hx, h⟩)
      · exact .inr ⟨y, x :: before, after, rfl, List.forall_mem_cons.2 ⟨hx, hbefore⟩, hy⟩
    · exact .inr ⟨x, [], xs, rfl, nofun, hx⟩

/-- Names keep the order of their first occurrences when others are left out. -/
theorem idxOf_lt_of_filter {p : String → Bool} {names : List String} {a b : String} (ha : p a = true) (hb : p b = true)
    (h : (names.filter p).idxOf a < (names.filter p).idxOf b) : names.idxOf a < names.idxOf b := by
  induction names with
  | nil => exact h
  | cons n names ih =>
    by_cases hn : p n = true
    · rw [List.filter_cons_of_pos hn] at h
      by_cases hna : n = a
      · subst hna
        have hnb : n ≠ b := by
          rintro rfl
          exact Nat.lt_irrefl _ h
        rw [List.idxOf_cons_self, List.idxOf_cons_ne _ hnb]
        exact Nat.succ_pos _
      · have hnb : n ≠ b := by
          rintro rfl
          rw [List.idxOf_cons_self] at h
          exact Nat.not_lt_zero _ h
        rw [List.idxOf_cons_ne _ hna, List.idxOf_cons_ne _ hnb] at h ⊢
        exact Nat.succ_lt_succ (ih (Nat.lt_of_succ_lt_succ h))
    · have hna : n ≠ a := fun heq => hn (heq ▸ ha)
      have hnb : n ≠ b := fun heq => hn (heq ▸ hb)
      rw [List.filter_cons_of_neg hn] at h
      rw [List.idxOf_cons_ne _ hna, List.idxOf_cons_ne _ hnb]
      exact Nat.succ_lt_succ (ih h)

/-- What is left when later repetitions are dropped stands in the order of the first occurrences. -/
theorem pairwise_eraseDups (names : List String) :
    names.eraseDups.Pairwise fun a b => names.idxOf a < names.idxOf b := by
  match names with
  | [] => exact .nil
  | name :: names =>
    have hne : ∀ a ∈ (names.filter (!· == name)).eraseDups, name ≠ a := by
      intro a ha
      rw [List.mem_eraseDups, List.mem_filter] at ha
      exact Ne.symm (by simpa using ha.2)
    rw [List.eraseDups_cons, List.pairwise_cons]
    refine ⟨fun a ha => ?_, (pairwise_eraseDups (names.filter (!· == name))).imp_of_mem fun {a b} ha hb h => ?_⟩
    · rw [List.idxOf_cons_self, List.idxOf_cons_ne _ (hne a ha)]
      exact Nat.succ_pos _
    · rw [List.idxOf_cons_ne _ (hne a ha), List.idxOf_cons_ne _ (hne b hb)]
      refine Nat.succ_lt_succ (idxOf_lt_of_filter ?_ ?_ h)
      · simpa using (hne a ha).symm
      · simpa using (hne b hb).symm
termination_by names.length
decreasing_by exact Nat.lt_succ_of_le (List.length_filter_le _ _)

/-! ## Positions of sources -/

namespace Registry

variable {r : Registry} {name : String} {i : Nat}

theorem mem_positions : i ∈ r.positions name ↔ ∃ s, r.sources[i]? = some s ∧ s.fileName = name := by
  simp [positions, List.mem_zipIdx_iff_getElem?]

/-- A position belongs to one name. -/
theorem disjoint_positions {name' : String} (h : name ≠ name') :
    (r.positions name).Disjoint (r.positions name') := by
  intro i hi hi'
  obtain ⟨s, hs, rfl⟩ := mem_positions.1 hi
  obtain ⟨s', hs', rfl⟩ := mem_positions.1 hi'
  obtain rfl : s = s' := Option.some.inj (hs.symm.trans hs')
  exact h rfl

/-- The sources at the positions of a name are those with the name. -/
theorem select_positions (r : Registry) (name : String) :
    r.select (r.positions name) = r.sources.filter (·.fileName == name) := by
  have hat : ∀ p ∈ r.sources.zipIdx.filter (·.1.fileName == name), r.sources[p.2]? = some p.1 :=
    fun p hp => List.mem_zipIdx_iff_getElem?.1 (List.mem_filter.1 hp).1
  calc r.select (r.positions name)
      = (r.sources.zipIdx.filter (·.1.fileName == name)).filterMap fun p => some p.1 := by
        rw [select, positions, List.filterMap_map]
        exact List.filterMap_congr hat
    _ = (r.sources.zipIdx.map (·.1)).filter (·.fileName == name) := by
        rw [List.filterMap_eq_map', List.filter_map]
        rfl
    _ = r.sources.filter (·.fileName == name) := by rw [List.zipIdx_map_fst]

theorem select_flatMap_positions (r : Registry) (names : List String) :
    r.select (names.flatMap r.positions) = names.flatMap fun name => r.sources.filter (·.fileName == name) := by
  have hone : r.select ∘ r.positions = fun name => r.sources.filter (·.fileName == name) :=
    funext r.select_positions
  rw [← hone, select, List.filterMap_flatMap]
  rfl

theorem positionsOf_eq_ok {positions : List Nat} (h : r.positionsOf name = .ok positions) :
    positions = r.positions name ∧ positions ≠ [] := by
  unfold positionsOf at h
  split at h
  · cases h
  · next hne =>
    cases h
    exact ⟨rfl, hne⟩

/-- Some source has the name. -/
def Knows (r : Registry) (fileName : String) : Prop := ∃ s ∈ r.sources, s.fileName = fileName

/-- The source at the first position has a name that stands further in front, or the two have one name and it is
registered earlier. -/
def Precedes (r : Registry) (names : List String) (i j : Nat) : Prop :=
  ∃ s t, r.sources[i]? = some s ∧ r.sources[j]? = some t ∧
    (names.idxOf s.fileName < names.idxOf t.fileName ∨ s.fileName = t.fileName ∧ i < j)

theorem positions_eq_nil_iff {name : String} : r.positions name = [] ↔ ¬ r.Knows name := by
  rw [List.eq_nil_iff_forall_not_mem]
  constructor
  · rintro h ⟨s, hs, hname⟩
    obtain ⟨i, hi⟩ := List.mem_iff_getElem?.1 hs
    exact h i (mem_positions.2 ⟨s, hi, hname⟩)
  · intro h i hi
    obtain ⟨s, hs, hname⟩ := mem_positions.1 hi
    exact h ⟨s, List.mem_of_getElem? hs, hname⟩

theorem positionsOf_of_knows {name : String} (h : r.Knows name) : r.positionsOf name = .ok (r.positions name) := by
  unfold positionsOf
  split
  · next hnil => exact absurd h (positions_eq_nil_iff.1 hnil)
  · rfl

theorem positionsOf_of_not_knows {name : String} (h : ¬ r.Knows name) :
    r.positionsOf name = .error (.notFound .template name) := by
  rw [positionsOf, positions_eq_nil_iff.2 h]

/-- The positions of a name ascend. -/
theorem sorted_positions (r : Registry) (name : String) : (r.positions name).Pairwise (· < ·) := by
  have hsub : (r.positions name).Sublist (r.sources.zipIdx.map (·.2)) := List.filter_sublist.map _
  refine List.Pairwise.sublist hsub ?_
  rw [List.zipIdx_map_snd]
  exact List.pairwise_lt_range'

theorem Precedes.irrefl {names : List String} {i : Nat} : ¬ r.Precedes names i i := by
  rintro ⟨s, t, hs, ht, h⟩
  obtain rfl : s = t := Option.some.inj (hs.symm.trans ht)
  omega

theorem Precedes.asymm {names : List String} {i j : Nat} (h : r.Precedes names i j) : ¬ r.Precedes names j i := by
  rintro ⟨t', s', ht', hs', h'⟩
  obtain ⟨s, t, hs, ht, h⟩ := h
  obtain rfl : s = s' := Option.some.inj (hs.symm.trans hs')
  obtain rfl : t = t' := Option.some.inj (ht.symm.trans ht')
  grind

/-- The positions of names in the order of their first occurrences come one name after another. -/
theorem precedes_flatMap (r : Registry) {names order : List String}
    (h : order.Pairwise fun a b => names.idxOf a < names.idxOf b) :
    (order.flatMap r.positions).Pairwise (r.Precedes names) := by
  rw [List.pairwise_flatMap]
  constructor
  · intro name _
    refine (r.sorted_positions name).imp_of_mem fun {i j} hi hj hij => ?_
    obtain ⟨s, hs, rfl⟩ := mem_positions.1 hi
    obtain ⟨t, ht, hname⟩ := mem_positions.1 hj
    exact ⟨s, t, hs, ht, .inr ⟨hname.symm, hij⟩⟩
  · refine h.imp fun {a b} hab i hi j hj => ?_
    obtain ⟨s, hs, rfl⟩ := mem_positions.1 hi
    obtain ⟨t, ht, rfl⟩ := mem_positions.1 hj
    exact ⟨s, t, hs, ht, .inl hab⟩

theorem precedes_flatMap_positions (r : Registry) (names : List String) :
    (names.eraseDups.flatMap r.positions).Pairwise (r.Precedes names) :=
  r.precedes_flatMap (pairwise_eraseDups names)

theorem nodup_of_precedes {names : List String} {is : List Nat} (h : is.Pairwise (r.Precedes names)) : is.Nodup :=
  h.imp (S := (· ≠ ·)) fun hij heq => Precedes.irrefl (heq ▸ hij)

/-- Which positions there are and the order that they have leave no choice. -/
theorem eq_of_precedes {names : List String} {is js : List Nat} (hi : is.Pairwise (r.Precedes names))
    (hj : js.Pairwise (r.Precedes names)) (hmem : ∀ i, i ∈ is ↔ i ∈ js) : is = js := by
  have hperm := (List.perm_ext_iff_of_nodup (nodup_of_precedes hi) (nodup_of_precedes hj)).2 hmem
  exact hperm.eq_of_pairwise (fun _ _ _ _ h h' => absurd h' h.asymm) hi hj

end Registry

/-! ## Positions of models -/

namespace Schema

variable {s : Schema}

/-- The model at the position has the name, and no model in front of it has. -/
def StandsAt (s : Schema) (name : String) (i : Nat) : Prop :=
  (∃ m, s.models[i]? = some m ∧ m.name = name) ∧ ∀ j < i, ∀ m, s.models[j]? = some m → m.name ≠ name

theorem position?_eq_some_iff {name : String} {i : Nat} : s.position? name = some i ↔ s.StandsAt name i := by
  rw [position?, List.findIdx?_eq_some_iff_getElem, StandsAt]
  constructor
  · rintro ⟨hi, hname, hfirst⟩
    refine ⟨⟨_, List.getElem?_eq_getElem hi, eq_of_beq hname⟩, fun j hj m hm => ?_⟩
    obtain ⟨hlt, rfl⟩ := List.getElem?_eq_some_iff.1 hm
    simpa using hfirst j hj
  · rintro ⟨⟨m, hm, hname⟩, hfirst⟩
    obtain ⟨hi, rfl⟩ := List.getElem?_eq_some_iff.1 hm
    refine ⟨hi, beq_iff_eq.2 hname, fun j hj => ?_⟩
    simpa using hfirst j hj _ (List.getElem?_eq_getElem (Nat.lt_trans hj hi))

end Schema

/-! ## Resolution -/

namespace Mapping

/-- The positions that are found follow those of the names before; a name that occurs again adds nothing. -/
theorem resolveSources_eq_ok {r : Registry} {done names : List String} {sources : List Nat}
    (h : resolveSources r (done.flatMap r.positions) names = .ok sources) :
    sources = (done ++ (names.filter (!done.contains ·)).eraseDups).flatMap r.positions := by
  induction names generalizing done with
  | nil =>
    cases h
    simp
  | cons name names ih =>
    unfold resolveSources at h
    split at h
    · cases h
    · next positions hp =>
      obtain ⟨rfl, -⟩ := Registry.positionsOf_eq_ok hp
      by_cases hmem : name ∈ done
      · -- all positions of the name are there
        have hnone : (r.positions name).filter (!(done.flatMap r.positions).contains ·) = [] := by
          rw [List.filter_eq_nil_iff]
          intro i hi
          simpa using ⟨name, hmem, hi⟩
        rw [hnone, List.append_nil] at h
        rw [ih h, List.filter_cons_of_neg (by simpa using hmem)]
      · -- none of them is
        have hall : (r.positions name).filter (!(done.flatMap r.positions).contains ·) = r.positions name := by
          rw [List.filter_eq_self]
          intro i hi
          have hother : ∀ name' ∈ done, i ∉ r.positions name' := by
            intro name' hname' hi'
            have hne : name ≠ name' := fun heq => hmem (heq ▸ hname')
            exact Registry.disjoint_positions hne hi hi'
          simpa using hother
        have hdone : done.flatMap r.positions ++ r.positions name = (done ++ [name]).flatMap r.positions := by
          simp
        rw [hall, hdone] at h
        have hrest : names.filter (!(done ++ [name]).contains ·) =
            (names.filter (!done.contains ·)).filter (!· == name) := by
          rw [List.filter_filter]
          refine List.filter_congr fun name' _ => ?_
          by_cases hname : name' = name <;> simp [hname]
        rw [ih h, hrest, List.filter_cons_of_pos (by simpa using hmem), List.eraseDups_cons, List.append_assoc,
          List.singleton_append]

theorem resolveModels_eq_ok {s : Schema} {names : List String} {models : List Nat}
    (h : resolveModels s names = .ok models) : models.map some = names.map s.position? := by
  induction names generalizing models with
  | nil =>
    cases h
    rfl
  | cons name names ih =>
    unfold resolveModels at h
    split at h
    · cases h
    · next i hi =>
      cases hr : resolveModels s names with
      | error e =>
        rw [hr] at h
        cases h
      | ok rest =>
        rw [hr] at h
        cases h
        rw [List.map_cons, List.map_cons, hi, ih hr]

/-- The positions of a mapping that is resolved. -/
theorem resolve_eq_ok {r : Registry} {s : Schema} {sourceNames modelNames : List String} {m : Mapping}
    (h : resolve r s sourceNames modelNames = .ok m) :
    m.sources = sourceNames.eraseDups.flatMap r.positions ∧ m.sources ≠ [] ∧
      m.models.map some = modelNames.map s.position? := by
  unfold resolve at h
  split at h
  · cases h
  · next sources hs =>
    split at h
    · cases h
    · next models hm =>
      split at h
      · cases h
      · next hne =>
        cases h
        refine ⟨?_, by simpa using hne, resolveModels_eq_ok hm⟩
        have heq := @resolveSources_eq_ok r [] sourceNames sources hs
        simpa using heq

theorem lt_length_of_mem_sources {r : Registry} {s : Schema} {sourceNames modelNames : List String} {m : Mapping}
    (h : resolve r s sourceNames modelNames = .ok m) : ∀ i ∈ m.sources, i < r.sources.length := by
  rw [(resolve_eq_ok h).1]
  intro i hi
  obtain ⟨name, -, hi⟩ := List.mem_flatMap.1 hi
  obtain ⟨source, hsource, -⟩ := Registry.mem_positions.1 hi
  exact (List.getElem?_eq_some_iff.1 hsource).1

/-- No position occurs twice among the sources of a mapping that is resolved. -/
theorem nodup_sources {r : Registry} {s : Schema} {sourceNames modelNames : List String} {m : Mapping}
    (h : resolve r s sourceNames modelNames = .ok m) : m.sources.Nodup := by
  rw [(resolve_eq_ok h).1]
  exact Registry.nodup_of_precedes (r.precedes_flatMap_positions sourceNames)

/-! ## All outcomes -/

section Outcomes

variable {r : Registry} {s : Schema}

/-- The ways in which the resolution of names ends. -/
inductive Resolves (r : Registry) (s : Schema) (sourceNames modelNames : List String) : Except Error Mapping → Prop
  | unknownSource {name : String} : FirstOutside r.Knows sourceNames name →
      Resolves r s sourceNames modelNames (.error (.notFound .template name))
  | unknownModel {name : String} : (∀ n ∈ sourceNames, r.Knows n) → FirstOutside (· ∈ s.names) modelNames name →
      Resolves r s sourceNames modelNames (.error (.notFound .model name))
  | nothing : sourceNames = [] → (∀ n ∈ modelNames, n ∈ s.names) →
      Resolves r s sourceNames modelNames (.error (.invalid .mappingWithoutTemplate))
  | resolved {m : Mapping} : sourceNames ≠ [] → (∀ n ∈ sourceNames, r.Knows n) → (∀ n ∈ modelNames, n ∈ s.names) →
      (∀ i, i ∈ m.sources ↔ ∃ x, r.sources[i]? = some x ∧ x.fileName ∈ sourceNames) →
      m.sources.Pairwise (r.Precedes sourceNames) → List.Forall₂ s.StandsAt modelNames m.models →
      Resolves r s sourceNames modelNames (.ok m)

theorem resolveSources_of_unknown {found : List Nat} {names : List String} {name : String}
    (h : FirstOutside r.Knows names name) : resolveSources r found names = .error (.notFound .template name) := by
  obtain ⟨before, after, rfl, hknown, hname⟩ := h
  induction before generalizing found with
  | nil => rw [List.nil_append, resolveSources, Registry.positionsOf_of_not_knows hname]
  | cons n before ih =>
    rw [List.forall_mem_cons] at hknown
    rw [List.cons_append, resolveSources, Registry.positionsOf_of_knows hknown.1]
    exact ih hknown.2

theorem resolveSources_of_known {names : List String} (h : ∀ n ∈ names, r.Knows n) :
    resolveSources r [] names = .ok (names.eraseDups.flatMap r.positions) := by
  have hok (found : List Nat) : ∃ sources, resolveSources r found names = .ok sources := by
    induction names generalizing found with
    | nil => exact ⟨found, rfl⟩
    | cons n names ih =>
      rw [List.forall_mem_cons] at h
      rw [resolveSources, Registry.positionsOf_of_knows h.1]
      exact ih h.2 _
  obtain ⟨sources, hsources⟩ := hok []
  have heq := @resolveSources_eq_ok r [] names sources hsources
  rw [hsources, heq]
  simp

theorem resolveModels_of_unknown {names : List String} {name : String}
    (h : FirstOutside (· ∈ s.names) names name) : resolveModels s names = .error (.notFound .model name) := by
  obtain ⟨before, after, rfl, hknown, hname⟩ := h
  induction before with
  | nil => rw [List.nil_append, resolveModels, Schema.position?_eq_none_iff.2 hname]
  | cons n before ih =>
    rw [List.forall_mem_cons] at hknown
    obtain ⟨i, hi⟩ := Option.ne_none_iff_exists'.1 fun hnone => Schema.position?_eq_none_iff.1 hnone hknown.1
    rw [List.cons_append, resolveModels, hi, ih hknown.2]
    rfl

theorem resolveModels_of_standsAt {names : List String} {models : List Nat}
    (h : List.Forall₂ s.StandsAt names models) : resolveModels s names = .ok models := by
  induction h with
  | nil => rfl
  | cons hi _ ih =>
    rw [resolveModels, Schema.position?_eq_some_iff.2 hi, ih]
    rfl

theorem exists_standsAt {names : List String} (h : ∀ n ∈ names, n ∈ s.names) :
    ∃ models, List.Forall₂ s.StandsAt names models := by
  induction names with
  | nil => exact ⟨[], .nil⟩
  | cons n names ih =>
    rw [List.forall_mem_cons] at h
    obtain ⟨i, hi⟩ := Option.ne_none_iff_exists'.1 fun hnone => Schema.position?_eq_none_iff.1 hnone h.1
    obtain ⟨models, hmodels⟩ := ih h.2
    exact ⟨i :: models, .cons (Schema.position?_eq_some_iff.1 hi) hmodels⟩

theorem mem_flatMap_positions {names : List String} {i : Nat} :
    i ∈ names.eraseDups.flatMap r.positions ↔ ∃ x, r.sources[i]? = some x ∧ x.fileName ∈ names := by
  simp only [List.mem_flatMap, List.mem_eraseDups, Registry.mem_positions]
  constructor
  · rintro ⟨name, hname, x, hx, rfl⟩
    exact ⟨x, hx, hname⟩
  · rintro ⟨x, hx, hname⟩
    exact ⟨x.fileName, hname, x, hx, rfl⟩

theorem resolve_of_known {sourceNames modelNames : List String} {models : List Nat}
    (hsources : ∀ n ∈ sourceNames, r.Knows n) (hmodels : List.Forall₂ s.StandsAt modelNames models) :
    resolve r s sourceNames modelNames = if sourceNames = [] then .error (.invalid .mappingWithoutTemplate)
      else .ok ⟨sourceNames.eraseDups.flatMap r.positions, models⟩ := by
  have hempty : sourceNames.eraseDups.flatMap r.positions = [] ↔ sourceNames = [] := by
    constructor
    · intro h
      by_contra hne
      obtain ⟨name, hname⟩ := List.exists_mem_of_ne_nil _ hne
      obtain ⟨x, hx, rfl⟩ := hsources name hname
      obtain ⟨i, hi⟩ := List.mem_iff_getElem?.1 hx
      have hmem := mem_flatMap_positions.2 ⟨x, hi, hname⟩
      rw [h] at hmem
      cases hmem
    · rintro rfl
      rfl
  simp only [resolve, resolveSources_of_known hsources, resolveModels_of_standsAt hmodels, List.isEmpty_iff, hempty]

/-- The names have one of these outcomes. -/
theorem exists_resolves (r : Registry) (s : Schema) (sourceNames modelNames : List String) :
    ∃ outcome, Resolves r s sourceNames modelNames outcome := by
  rcases forall_or_firstOutside r.Knows sourceNames with hsources | ⟨name, h⟩
  · rcases forall_or_firstOutside (· ∈ s.names) modelNames with hmodels | ⟨name, h⟩
    · by_cases hempty : sourceNames = []
      · exact ⟨_, .nothing hempty hmodels⟩
      · obtain ⟨models, hstands⟩ := exists_standsAt hmodels
        exact ⟨_, .resolved (m := ⟨_, models⟩) hempty hsources hmodels (fun _ => mem_flatMap_positions)
          (r.precedes_flatMap_positions sourceNames) hstands⟩
    · exact ⟨_, .unknownModel hsources h⟩
  · exact ⟨_, .unknownSource h⟩

theorem Resolves.resolve_eq {sourceNames modelNames : List String} {outcome : Except Error Mapping}
    (h : Resolves r s sourceNames modelNames outcome) : resolve r s sourceNames modelNames = outcome := by
  cases h with
  | unknownSource h => rw [resolve, resolveSources_of_unknown h]
  | unknownModel hsources h => rw [resolve, resolveSources_of_known hsources, resolveModels_of_unknown h]
  | nothing hempty hmodels =>
    obtain ⟨models, hstands⟩ := exists_standsAt hmodels
    subst hempty
    rw [resolve_of_known (List.forall_mem_nil _) hstands, if_pos rfl]
  | @resolved m hne hsources hmodels hmem hsorted hstands =>
    have hpositions : sourceNames.eraseDups.flatMap r.positions = m.sources :=
      Registry.eq_of_precedes (r.precedes_flatMap_positions sourceNames) hsorted fun i =>
        mem_flatMap_positions.trans (hmem i).symm
    rw [resolve_of_known hsources hstands, if_neg hne, hpositions]

/-- Names are resolved exactly if there is a source name and there is something for every name. Then the mapping has
each position of a source with one of the names once, in the order of the names and among those of one name in that of
registration, and for every model name the position of its model. Otherwise the first source name is reported for which
there is nothing, or else the first such model name, or else that there is no source name. -/
theorem resolve_eq_iff (r : Registry) (s : Schema) (sourceNames modelNames : List String) :
    ((∃ m, resolve r s sourceNames modelNames = .ok m) ↔
      sourceNames ≠ [] ∧ (∀ n ∈ sourceNames, r.Knows n) ∧ ∀ n ∈ modelNames, n ∈ s.names) ∧
    ∀ outcome, resolve r s sourceNames modelNames = outcome ↔ Resolves r s sourceNames modelNames outcome := by
  have hiff (outcome : Except Error Mapping) :
      resolve r s sourceNames modelNames = outcome ↔ Resolves r s sourceNames modelNames outcome := by
    obtain ⟨outcome', h⟩ := exists_resolves r s sourceNames modelNames
    refine ⟨?_, Resolves.resolve_eq⟩
    rintro rfl
    rwa [h.resolve_eq]
  refine ⟨⟨?_, ?_⟩, hiff⟩
  · rintro ⟨m, hm⟩
    cases (hiff _).1 hm with
    | resolved hne hsources hmodels => exact ⟨hne, hsources, hmodels⟩
  · rintro ⟨hne, hsources, hmodels⟩
    obtain ⟨models, hstands⟩ := exists_standsAt hmodels
    exact ⟨_, (resolve_of_known hsources hstands).trans (if_neg hne)⟩

/-- The sources of one name stand where the name does first, and a model may come twice. An unknown model counts before
the lack of source names. -/
theorem resolve_eq_iff_repeated :
    let page : Source := ⟨"page.lt", "a", "1.0", .template "", 0⟩
    let r : Registry := ⟨[page, ⟨"logo.png", "", "1.0", .opaqueFile "", 0⟩, { page with directory := "b" }]⟩
    let s : Schema := ⟨"", [{ name := "Order" }, { name := "User" }]⟩
    Resolves r s ["logo.png", "page.lt", "logo.png"] ["User", "Order", "User"] (.ok ⟨[1, 0, 2], [1, 0, 1]⟩) ∧
      Resolves r s [] ["User", "Item"] (.error (.notFound .model "Item")) := by
  intro page r s
  exact ⟨((resolve_eq_iff r s _ _).2 _).1 (by decide), ((resolve_eq_iff r s _ _).2 _).1 (by decide)⟩

end Outcomes

end Mapping

end Stencil
