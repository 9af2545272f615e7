import Mathlib.Data.String.Basic
import Stencil.Table
/-!
# Insertions into a table

The last insertion of a name decides, and insertions of different names can be exchanged. So what a table
is after many insertions depends on the last one of each name alone. That holds for any list of entries,
sorted or not.
-/

namespace Stencil.Table

variable {α : Type}

theorem get?_insert (table : Table α) (name other : String) (v : α) :
    (table.insert name v).get? other = if name = other then some v else table.get? other := by
  by_cases h : name = other
  · rw [if_pos h, ← h, get?_insert_self]
  · rw [if_neg h, get?_insert_of_ne table v (Ne.symm h)]

/-- A later value takes the place of an earlier one. -/
theorem insert_insert_self (table : Table α) (name : String) (v w : α) :
    (table.insert name v).insert name w = table.insert name w := by
  induction table with
  | nil => simp [insert]
  | cons e rest ih =>
    obtain ⟨n, u⟩ := e
    by_cases hn : name = n
    · simp [insert, hn]
    · by_cases hlt : name < n
      · simp [insert, hn, hlt]
      · simp [insert, hn, hlt, ih]

/-- Different names are inserted in any order. -/
theorem insert_comm (table : Table α) {name other : String} (h : name ≠ other) (v w : α) :
    (table.insert name v).insert other w = (table.insert other w).insert name v := by
  induction table with
  | nil =>
    rcases lt_or_gt_of_ne h with hlt | hlt
    · simp [insert, h, h.symm, hlt, hlt.not_gt]
    · simp [insert, h, h.symm, hlt, hlt.not_gt]
  | cons e rest ih =>
    obtain ⟨n, u⟩ := e
    -- Each of the two names goes before `n`, into its place or behind it.
    rcases lt_trichotomy name n with hn | hn | hn
    · rcases lt_trichotomy other n with ho | ho | ho
      · rcases lt_or_gt_of_ne h with hlt | hlt
        · simp [insert, h, h.symm, hn, ho, hn.ne, ho.ne, hlt, hlt.not_gt]
        · simp [insert, h, h.symm, hn, ho, hn.ne, ho.ne, hlt, hlt.not_gt]
      · subst ho
        simp [insert, h, h.symm, hn, hn.not_gt]
      · have hlt := hn.trans ho
        simp [insert, h.symm, hn, hn.ne, ho.ne', ho.not_gt, hlt.not_gt]
    · subst hn
      rcases lt_or_gt_of_ne h with hlt | hlt
      · simp [insert, h.symm, hlt.not_gt]
      · simp [insert, h, h.symm, hlt, hlt.not_gt]
    · rcases lt_trichotomy other n with ho | ho | ho
      · have hlt := ho.trans hn
        simp [insert, h, ho, ho.ne, hn.ne', hn.not_gt, hlt.not_gt]
      · subst ho
        simp [insert, h, hn.not_gt]
      · simp [insert, hn.ne', ho.ne', hn.not_gt, ho.not_gt, ih]

end Stencil.Table
