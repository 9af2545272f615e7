import Stencil.Proofs.Text.Words
/-!
# Words of a text in two parts

Two texts are `Apart` if no word reaches from the first into the second. Then the words of both together are
those of the first and those of the second (`words_append`): the only thing that a boundary in the first part could see
of the second one is a lower-case letter behind a capital, and such a capital is not apart from the letter.
-/

namespace Stencil.Text

/-- No word has its end in the second text and its beginning in the first. -/
def Apart (cs ds : List Char) : Prop :=
  ∀ a ∈ cs.getLast?, ∀ b ∈ ds.head?,
    isSeparator a = true ∨ isSeparator b = true ∨ cutsBetween a b ds.tail.head? = true

theorem tame_cutsBetween : Boundary.Tame cutsBetween := by
  rw [← anyOf_wordBoundaries]
  exact .anyOf fun p hp => tame_of_mem hp

theorem apart_nil_left (ds : List Char) : Apart [] ds := fun _ ha => nomatch ha

theorem apart_nil_right (cs : List Char) : Apart cs [] := fun _ _ _ hb => nomatch hb

@[simp]
theorem apart_cons_cons {a b : Char} {cs ds : List Char} : Apart (a :: b :: cs) ds ↔ Apart (b :: cs) ds := by
  rw [Apart, Apart, List.getLast?_cons_cons]

theorem apart_singleton_cons {a b : Char} {ds : List Char} :
    Apart [a] (b :: ds) ↔ isSeparator a = true ∨ isSeparator b = true ∨ cutsBetween a b ds.head? = true := by
  simp [Apart]

/-- Nobody sees into a text that is apart from the one in front. -/
theorem cutsBetween_append {b : Char} {cs ds : List Char} (h : Apart (b :: cs) ds) (a : Char) :
    cutsBetween a b (cs ++ ds).head? = cutsBetween a b cs.head? := by
  cases cs with
  | cons c cs => rfl
  | nil =>
    refine (tame_cutsBetween.sees a (.inr ⟨rfl, fun c hc ⟨hb, hlower⟩ => ?_⟩)).symm
    rcases h b rfl c hc with hsep | hsep | hcut
    · rw [isSeparator_of_letter (.inl hb)] at hsep
      cases hsep
    · rw [isSeparator_of_letter (.inr hlower)] at hsep
      cases hsep
    · rw [tame_cutsBetween.joins b c _ hb hlower] at hcut
      cases hcut

/-! ## Words from the first character on -/

theorem words_nil : words [] = [] := rfl

theorem words_cons_of_separator {a : Char} (h : isSeparator a = true) (cs : List Char) :
    words (a :: cs) = words cs := by
  rw [words_eq, words_eq, segments, if_pos h, nonempty_nil_cons]

theorem words_cons_of_apart {a : Char} {cs : List Char} (ha : isSeparator a = false) (h : Apart [a] cs) :
    words (a :: cs) = [a] :: words cs := by
  rw [words_eq, words_eq, segments, ha, if_neg Bool.false_ne_true]
  cases cs with
  | nil => rfl
  | cons b cs =>
    rw [apart_singleton_cons, ha] at h
    split
    · rfl
    · next hends =>
      have hb : isSeparator b = true := by
        rw [endsWord] at hends
        simpa [hends] using h
      rw [segments, if_pos hb]
      rfl

theorem words_cons_of_not_apart {a : Char} {cs : List Char} (h : ¬ Apart [a] cs) :
    words cs ≠ [] ∧ words (a :: cs) = (words cs).modifyHead (a :: ·) := by
  cases cs with
  | nil => exact absurd (apart_nil_right _) h
  | cons b cs =>
    rw [apart_singleton_cons, not_or, not_or, Bool.not_eq_true, Bool.not_eq_true, Bool.not_eq_true] at h
    obtain ⟨ha, hb, hcut⟩ := h
    obtain ⟨p, ps, hsegments⟩ := segments_cons_of_not_sep hb cs
    have hwords : words (b :: cs) = (b :: p) :: nonempty ps := by rw [words_eq, hsegments, nonempty_cons_cons]
    refine ⟨by simp [hwords], ?_⟩
    rw [hwords, words_eq, segments, ha, if_neg Bool.false_ne_true, endsWord, hcut, if_neg Bool.false_ne_true, hsegments]
    rfl

/-! ## Words of both parts -/

theorem words_append {cs ds : List Char} (h : Apart cs ds) : words (cs ++ ds) = words cs ++ words ds := by
  induction cs with
  | nil => rfl
  | cons a cs ih =>
    cases ha : isSeparator a with
    | true =>
      have hcs : Apart cs ds := by
        cases cs with
        | nil => exact apart_nil_left ds
        | cons b cs => exact apart_cons_cons.1 h
      rw [List.cons_append, words_cons_of_separator ha, words_cons_of_separator ha, ih hcs]
    | false =>
      cases cs with
      | nil =>
        rw [List.singleton_append, words_cons_of_apart ha h, words_cons_of_apart ha (apart_nil_right _), words_nil,
          List.singleton_append]
      | cons b cs =>
        rw [apart_cons_cons] at h
        have hsame : Apart [a] (b :: cs ++ ds) ↔ Apart [a] (b :: cs) := by
          rw [List.cons_append, apart_singleton_cons, apart_singleton_cons, cutsBetween_append h]
        by_cases hapart : Apart [a] (b :: cs)
        · rw [List.cons_append, words_cons_of_apart ha hapart, words_cons_of_apart ha (hsame.2 hapart), ih h,
            List.cons_append]
        · obtain ⟨hne, hwords⟩ := words_cons_of_not_apart hapart
          obtain ⟨w, ws, hcs⟩ := List.exists_cons_of_ne_nil hne
          rw [List.cons_append, hwords, (words_cons_of_not_apart (mt hsame.1 hapart)).2, ih h, hcs]
          rfl

theorem isAlpha_iff {c : Char} : c.isAlpha = true ↔ c.isUpper = true ∨ c.isLower = true := by
  change (c.isUpper || c.isLower) = true ↔ _
  rw [Bool.or_eq_true]

theorem isDigit_of_isAlpha {c : Char} (h : c.isAlpha = true) : c.isDigit = false :=
  (isAlpha_iff.1 h).elim isDigit_of_isUpper isDigit_of_isLower

end Stencil.Text
