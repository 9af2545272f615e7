import Mathlib.Data.List.Infix
import Stencil.Text.Scan
/-!
# The first occurrence of a mark

`FirstAt` says what `breakOn` finds, without a search: the text falls apart at the mark, and in no way
at an earlier place. `breakOn_eq_some_iff` and `breakOn_eq_none_iff` are all that is needed of it.

A mark that is put behind a text is found there unless it occurs in the text already, or begins in it
and ends in itself. `firstAt_append` leaves the second to be ruled out; a mark without a border cannot
do it (`firstAt_of_unbordered`).
-/

namespace Stencil.Text

/-- `before` precedes the first occurrence of the mark in the text, and `rest` follows it. -/
structure FirstAt (mark text before rest : List Char) : Prop where
  eq : text = before ++ mark ++ rest
  first : ∀ b r, text = b ++ mark ++ r → before.length ≤ b.length

theorem FirstAt.occurs {mark text before rest : List Char} (h : FirstAt mark text before rest) :
    mark <:+: text := ⟨before, rest, h.eq.symm⟩

/-- There is one first occurrence. -/
theorem FirstAt.unique {mark text b b' r r' : List Char} (h : FirstAt mark text b r)
    (h' : FirstAt mark text b' r') : b = b' ∧ r = r' := by
  have hlen : b.length = b'.length :=
    Nat.le_antisymm (h.first b' r' h'.eq) (h'.first b r h.eq)
  have heq : b ++ (mark ++ r) = b' ++ (mark ++ r') := by
    rw [← List.append_assoc, ← List.append_assoc, ← h.eq, ← h'.eq]
  obtain ⟨hb, hr⟩ := List.append_inj heq hlen
  exact ⟨hb, List.append_cancel_left hr⟩

/-! ## What the search finds -/

theorem isPrefixOf?_eq_none_iff {α : Type} [BEq α] [LawfulBEq α] {mark text : List α} :
    mark.isPrefixOf? text = none ↔ ¬ mark <+: text := by
  rw [← Option.not_isSome_iff_eq_none, List.isSome_isPrefixOf?_eq_isPrefixOf, List.isPrefixOf_iff_prefix]

theorem breakOn_eq_none_iff {mark text : List Char} :
    breakOn mark text = none ↔ ¬ mark <:+: text := by
  induction text with
  | nil =>
    cases mark with
    | nil => simp [breakOn, List.isPrefixOf?]
    | cons m ms => simp [breakOn, List.isPrefixOf?]
  | cons c cs ih =>
    rw [List.infix_cons_iff, not_or, ← ih, ← isPrefixOf?_eq_none_iff]
    simp only [breakOn]
    cases hp : mark.isPrefixOf? (c :: cs) with
    | some rest => simp
    | none => simp

/-- No occurrence begins before the place that the search finds. -/
theorem length_le_of_breakOn {mark text before rest b r : List Char}
    (h : breakOn mark text = some (before, rest)) (e : text = b ++ mark ++ r) :
    before.length ≤ b.length := by
  induction text generalizing before b with
  | nil =>
    obtain ⟨_, _, he⟩ := Option.map_eq_some_iff.1 (by simpa only [breakOn] using h)
    cases he
    exact Nat.zero_le _
  | cons c cs ih =>
    unfold breakOn at h
    split at h
    · cases h
      exact Nat.zero_le _
    · next hp =>
      obtain ⟨⟨b', r'⟩, hb, he⟩ := Option.map_eq_some_iff.1 h
      cases he
      cases b with
      | nil => exact absurd ⟨r, e.symm⟩ (isPrefixOf?_eq_none_iff.1 hp)
      | cons x b =>
        simp only [List.cons_append, List.cons.injEq] at e
        exact Nat.succ_le_succ (ih hb e.2)

theorem breakOn_eq_some_iff {mark text before rest : List Char} :
    breakOn mark text = some (before, rest) ↔ FirstAt mark text before rest := by
  constructor
  · intro h
    exact ⟨breakOn_eq h, fun b r e => length_le_of_breakOn h e⟩
  · intro h
    cases hb : breakOn mark text with
    | none => exact absurd h.occurs (breakOn_eq_none_iff.1 hb)
    | some found =>
      obtain ⟨b, r⟩ := found
      have h' : FirstAt mark text b r := ⟨breakOn_eq hb, fun _ _ e => length_le_of_breakOn hb e⟩
      obtain ⟨rfl, rfl⟩ := h.unique h'
      rfl

/-! ## Seams -/

/-- A text that begins in two ways: the longer beginning goes on from the shorter one. -/
theorem continues_of_append_eq {a b x y : List Char} (e : a ++ x = b ++ y) (h : a.length ≤ b.length) :
    ∃ z, b = a ++ z ∧ x = z ++ y := by
  obtain ⟨z, hz⟩ := List.prefix_of_prefix_length_le ⟨x, e⟩ (List.prefix_append b y) h
  have hx : a ++ x = a ++ (z ++ y) := by rw [← List.append_assoc, hz, e]
  exact ⟨z, hz.symm, List.append_cancel_left hx⟩

/-- A mark in two texts put together is in one of them, or begins in the first and ends in the second. -/
theorem infix_append_cases {mark a b : List Char} (h : mark <:+: a ++ b) :
    mark <:+: a ∨ mark <:+: b ∨ ∃ x y, mark = x ++ y ∧ x ≠ [] ∧ y ≠ [] ∧ x <:+ a ∧ y <+: b := by
  obtain ⟨p, q, e⟩ := h
  -- The mark ends inside of `a`, or it goes on into `b`; in the second case it begins in `a` or behind it.
  rcases Nat.le_total (p ++ mark).length a.length with hle | hle
  · obtain ⟨z, ha, -⟩ := continues_of_append_eq e hle
    exact .inl ⟨p, z, ha.symm⟩
  obtain ⟨z, hz, hb⟩ := continues_of_append_eq e.symm hle
  rcases Nat.le_total p.length a.length with hp | hp
  · obtain ⟨x, ha, hm⟩ := continues_of_append_eq hz hp
    by_cases hx : x = []
    · subst hx
      exact .inr (.inl ⟨[], q, by rw [hb, hm]; rfl⟩)
    by_cases hz0 : z = []
    · subst hz0
      exact .inl ⟨p, [], by rw [ha, hm]; simp⟩
    · exact .inr (.inr ⟨x, z, hm, hx, hz0, ⟨p, ha.symm⟩, ⟨q, hb.symm⟩⟩)
  · obtain ⟨w, -, hm⟩ := continues_of_append_eq hz.symm hp
    exact .inr (.inl ⟨w, q, by rw [hb, hm]⟩)

/-- A mark behind a text is found there if it does not occur in the text, and no part of it that ends
the text lets the mark go on into itself. -/
theorem firstAt_append {mark before : List Char} (hin : ¬ mark <:+: before)
    (hseam : ∀ x y, mark = x ++ y → x <:+ before → y <+: mark → x = [] ∨ y = []) (rest : List Char) :
    FirstAt mark (before ++ mark ++ rest) before rest := by
  refine ⟨rfl, fun b r e => Nat.le_of_not_lt fun hlt => ?_⟩
  rw [List.append_assoc, List.append_assoc] at e
  obtain ⟨x, hx, ex⟩ := continues_of_append_eq e.symm (Nat.le_of_lt hlt)
  have hx0 : x ≠ [] := by
    rintro rfl
    rw [hx, List.append_nil] at hlt
    exact Nat.lt_irrefl _ hlt
  -- `x` is what is left of `before` where the earlier occurrence begins: the mark fits into it, or runs
  -- across the seam and goes on with a beginning of itself.
  rcases Nat.le_total mark.length x.length with hle | hle
  · obtain ⟨z, hz, -⟩ := continues_of_append_eq ex hle
    exact hin ⟨b, z, by rw [hx, hz, List.append_assoc]⟩
  · obtain ⟨y, hy, ey⟩ := continues_of_append_eq ex.symm hle
    have hyp : y <+: mark := by
      have hlen : y.length ≤ mark.length := by
        rw [hy, List.length_append]
        omega
      obtain ⟨z, hz, -⟩ := continues_of_append_eq ey.symm hlen
      exact ⟨z, hz.symm⟩
    rcases hseam x y hy ⟨b, hx.symm⟩ hyp with h | h
    · exact hx0 h
    · subst h
      rw [List.append_nil] at hy
      exact hin ⟨b, [], by rw [hx, hy, List.append_nil]⟩

/-- No end of the mark begins it, but the mark itself. -/
def Unbordered (mark : List Char) : Prop := ∀ b ∈ mark.tails, b <+: mark → b = [] ∨ b = mark

instance (mark : List Char) : Decidable (Unbordered mark) :=
  inferInstanceAs (Decidable (∀ b ∈ mark.tails, b <+: mark → b = [] ∨ b = mark))

theorem firstAt_of_unbordered {mark before : List Char} (hu : Unbordered mark)
    (hin : ¬ mark <:+: before) (rest : List Char) :
    FirstAt mark (before ++ mark ++ rest) before rest := by
  refine firstAt_append hin (fun x y e _ hy => ?_) rest
  rcases hu y ((List.mem_tails y mark).2 ⟨x, e.symm⟩) hy with h | h
  · exact .inr h
  · refine .inl (List.eq_nil_of_length_eq_zero ?_)
    have := congrArg List.length e
    rw [List.length_append, h] at this
    omega

end Stencil.Text
