import Stencil.Proofs.Text.Inflection
import Stencil.Proofs.Text.Lower
/-!
# Lowering over all of Unicode

What a character is lowered to is in lower case already (`lowerChars_lowerChars`), and it is no ASCII capital, and a
digit or a separator exactly if the character is one (`kind_of_mem_lowered`). Lowering looks beyond a character only to
find out whether a capital sigma ends a word. Nobody sees across an underscore for that, so words with underscores
between them can be lowered one by one (`lowerChars_intercalate`).
-/

namespace Stencil.Text

open Text.Property

/-! ## Runs that lead to no run -/

/-- The one place of the capital `i` with a dot, as a run. -/
def dottedRun : CaseRun := ⟨0x130, 0x130, 1, 0⟩

/-- What the first run maps to lies in front of the second one, behind it, or in its gaps. -/
def misses (r s : CaseRun) : Bool :=
  Nat.blt (r.last + r.shift).toNat s.first || Nat.blt s.last (r.first + r.shift).toNat ||
    ((r.step == 2 || r.first == r.last) && s.step == 2 && ((r.first + r.shift).toNat + s.first) % 2 == 1)

theorem lowerRuns_misses : (lowerRuns.all fun row => row.all fun r =>
    ([dottedRun] :: lowerRuns).all fun row' => row'.all fun s => misses r s) = true := by
  decide +kernel

theorem image?_of_misses {r s : CaseRun} (h : misses r s = true) (hr : 0 ≤ r.first + r.shift) {n m : Nat}
    (hm : r.image? n = some m) : s.image? m = none := by
  rw [CaseRun.image?] at hm
  split at hm
  · next hon =>
    obtain rfl := Option.some.inj hm
    obtain ⟨hfirst, hlast, hstep⟩ := hon
    simp only [misses, Bool.or_eq_true, Bool.and_eq_true, Nat.blt_eq, beq_iff_eq] at h
    refine if_neg ?_
    rintro ⟨hbehind, hfront, hplace⟩
    rcases h with (h | h) | ⟨⟨hr2, hs2⟩, hodd⟩
    · omega
    · omega
    · -- the two runs have the same step, and they are out of step
      rw [hs2] at hplace
      rcases hr2 with hr2 | hsingle
      · rw [hr2] at hstep
        omega
      · omega
  · cases hm

/-- A code point that is mapped at all is mapped to one that is on no run. -/
theorem image?_mapRuns (n : Nat) : mapRuns lowerRuns n = n ∨
    ∀ row ∈ [dottedRun] :: lowerRuns, ∀ s ∈ row, s.image? (mapRuns lowerRuns n) = none := by
  cases h : lowerRuns.findSome? fun row => row.findSome? (·.image? n) with
  | none => exact .inl (by rw [mapRuns, h, Option.getD_none])
  | some m =>
    obtain ⟨row, hrow, hm⟩ := List.exists_of_findSome?_eq_some h
    obtain ⟨r, hr, hm⟩ := List.exists_of_findSome?_eq_some hm
    have hshift : 0 ≤ r.first + r.shift := by
      rcases lowerRuns_outside row hrow r hr with rfl | hout
      · decide
      · omega
    have hall := List.all_eq_true.1 (List.all_eq_true.1 lowerRuns_misses row hrow) r hr
    refine .inr fun row' hrow' s hs => ?_
    rw [mapRuns, h, Option.getD_some]
    exact image?_of_misses (List.all_eq_true.1 (List.all_eq_true.1 hall row' hrow') s hs) hshift hm

/-! ## Lowering twice -/

theorem lowerChar_ofNat {m : Nat} (hm : 128 ≤ m) (hvalid : m.isValidChar)
    (h : ∀ row ∈ [dottedRun] :: lowerRuns, ∀ s ∈ row, s.image? m = none) :
    lowerChar (Char.ofNat m) = [Char.ofNat m] := by
  rw [List.forall_mem_cons, List.forall_mem_singleton] at h
  have hdotted : (m == 0x130) = false := by
    rw [beq_eq_false_iff_ne]
    rintro rfl
    exact absurd h.1 (by decide)
  have hexpand : lowerExpansions.lookup m = none := by
    simp [lowerExpansions, List.lookup_cons, hdotted]
  have hruns : mapRuns lowerRuns m = m := by
    rw [mapRuns, List.findSome?_eq_none_iff.2, Option.getD_none]
    exact fun row hrow => List.findSome?_eq_none_iff.2 (h.2 row hrow)
  rw [lowerChar, toNat_ofNat hvalid, if_neg (Nat.not_lt.2 hm), hexpand, hruns]

/-- What a character is lowered to stays as it is when it is lowered again. -/
theorem lowerChar_of_mem_lowerChar {c x : Char} (hx : x ∈ lowerChar c) : lowerChar x = [x] := by
  by_cases hc : c.toNat < 128
  · rw [lowerChar_of_ascii hc, List.mem_singleton] at hx
    obtain ⟨hascii, -, -, htwice⟩ := toLower_of_ascii hc
    rw [hx, lowerChar_of_ascii hascii, htwice]
  · have hself := hx
    rw [lowerChar, if_neg hc] at hx
    split at hx
    · next ns hns =>
      rw [eq_of_lookup_lowerExpansions hns] at hx
      rcases List.mem_pair.1 hx with rfl | rfl <;> decide +kernel
    · next hexpand =>
      rw [List.mem_singleton] at hx
      have hfixed : mapRuns lowerRuns c.toNat = c.toNat → lowerChar x = [x] := by
        intro h
        rw [h, Char.ofNat_toNat] at hx
        rw [hx, lowerChar, if_neg hc, hexpand, h, Char.ofNat_toNat]
      rcases mapRuns_lowerRuns c.toNat with h | h | ⟨h, hvalid⟩
      · exact hfixed h
      · rw [hx, h]
        rfl
      · rcases image?_mapRuns c.toNat with hsame | hnone
        · exact hfixed hsame
        · rw [hx]
          exact lowerChar_ofNat h hvalid hnone

theorem lowerChar_of_mem_lowered {before after : List Char} {c x : Char} (hx : x ∈ lowered before c after) :
    lowerChar x = [x] := by
  unfold lowered at hx
  split at hx
  · rw [List.mem_singleton] at hx
    rw [hx, smallSigma]
    split <;> decide +kernel
  · exact lowerChar_of_mem_lowerChar hx

theorem exists_of_mem_lowerAfter {before cs : List Char} {x : Char} (hx : x ∈ lowerAfter before cs) :
    ∃ c ∈ cs, ∃ front behind, x ∈ lowered front c behind := by
  induction cs generalizing before with
  | nil => cases hx
  | cons c cs ih =>
    rw [lowerAfter_cons, List.mem_append] at hx
    rcases hx with hx | hx
    · exact ⟨c, List.mem_cons_self, before, cs, hx⟩
    · obtain ⟨d, hd, hmem⟩ := ih hx
      exact ⟨d, List.mem_cons_of_mem c hd, hmem⟩

/-- A text of characters that stay as they are stays as it is. -/
theorem lowerAfter_eq_self {before cs : List Char} (h : ∀ c ∈ cs, lowerChar c = [c]) : lowerAfter before cs = cs := by
  induction cs generalizing before with
  | nil => rfl
  | cons c cs ih =>
    rw [List.forall_mem_cons] at h
    have hsigma : c ≠ capitalSigma := by
      rintro rfl
      exact absurd h.1 (by decide +kernel)
    rw [lowerAfter_cons, lowered, if_neg hsigma, h.1, ih h.2, List.singleton_append]

theorem lowerChars_lowerChars (cs : List Char) : lowerChars (lowerChars cs) = lowerChars cs := by
  apply lowerAfter_eq_self
  intro x hx
  obtain ⟨c, -, front, behind, hmem⟩ := exists_of_mem_lowerAfter hx
  exact lowerChar_of_mem_lowered hmem

/-! ## Kinds of characters -/

theorem kind_toLower_of_ascii {c : Char} (h : c.toNat < 128) :
    c.toLower.isUpper = false ∧ c.toLower.isDigit = c.isDigit ∧ isSeparator c.toLower = isSeparator c := by
  have hc : c.toLower.isUpper = false ∧ c.toLower.isDigit = c.isDigit := of_ascii h (by decide)
  exact ⟨hc.1, hc.2, (toLower_of_ascii h).2.1⟩

theorem kind_of_not_ascii {c : Char} (h : 128 ≤ c.toNat) :
    c.isUpper = false ∧ c.isDigit = false ∧ isSeparator c = false := by
  refine ⟨?_, ?_, ?_⟩
  · rw [Bool.eq_false_iff, Ne, isUpper_iff_toNat]
    omega
  · rw [Bool.eq_false_iff, Ne, isDigit_iff_toNat]
    omega
  · rw [Bool.eq_false_iff]
    intro hsep
    simp only [isSeparator, Bool.or_eq_true, beq_iff_eq] at hsep
    rcases hsep with (rfl | rfl) | rfl <;> exact absurd h (by decide)

/-- What stands for a character in lower case is no capital of ASCII, and a digit or a separator only for one. -/
theorem kind_of_mem_lowered {before after : List Char} {c x : Char} (hx : x ∈ lowered before c after) :
    x.isUpper = false ∧ x.isDigit = c.isDigit ∧ isSeparator x = isSeparator c := by
  by_cases hc : c.toNat < 128
  · rw [lowered, if_neg (ne_capitalSigma_of_ascii hc), lowerChar_of_ascii hc, List.mem_singleton] at hx
    rw [hx]
    exact kind_toLower_of_ascii hc
  · obtain ⟨-, hdigit, hsep⟩ := kind_of_not_ascii (Nat.not_lt.1 hc)
    rw [hdigit, hsep]
    by_cases hascii : x.toNat < 128
    · have hplain : ¬ Plain x := not_plain_of_mem_lowered (Nat.not_lt.1 hc) hx
      have hik : x = 'i' ∨ x = 'k' := by
        by_contra hne
        rw [not_or] at hne
        exact hplain ⟨hascii, hne⟩
      rcases hik with rfl | rfl <;> decide
    · exact kind_of_not_ascii (Nat.not_lt.1 hascii)

/-! ## Word by word -/

theorem startsCased_cons (c : Char) (cs : List Char) :
    startsCased (c :: cs) = if isCaseIgnorable c then startsCased cs else isCased c := by
  unfold startsCased
  cases h : isCaseIgnorable c <;> simp [h]

/-- Behind an underscore nothing counts. -/
theorem startsCased_append_underscore (cs ds : List Char) : startsCased (cs ++ '_' :: ds) = startsCased cs := by
  induction cs with
  | nil => rfl
  | cons c cs ih => rw [List.cons_append, startsCased_cons, startsCased_cons, ih]

theorem smallSigma_append_underscore (front before cs ds : List Char) :
    smallSigma (front ++ '_' :: before) cs = smallSigma front cs ∧
      smallSigma front (cs ++ '_' :: ds) = smallSigma front cs := by
  constructor <;> rw [smallSigma, smallSigma, startsCased_append_underscore]

theorem lowerAfter_underscore (front before cs : List Char) :
    lowerAfter (front ++ '_' :: before) cs = lowerAfter front cs := by
  induction cs generalizing front with
  | nil => rfl
  | cons c cs ih =>
    rw [lowerAfter_cons, lowerAfter_cons, ← List.cons_append, ih, lowered, lowered,
      (smallSigma_append_underscore front before cs []).1]

/-- What is on one side of an underscore is lowered without a look at the other side. -/
theorem lowerAfter_append_underscore (before cs ds : List Char) :
    lowerAfter before (cs ++ '_' :: ds) = lowerAfter before cs ++ '_' :: lowerChars ds := by
  induction cs generalizing before with
  | nil =>
    have hunderscore : lowered before '_' ds = ['_'] := rfl
    rw [List.nil_append, lowerAfter_cons, hunderscore, ← List.nil_append ('_' :: before), lowerAfter_underscore]
    rfl
  | cons c cs ih =>
    rw [List.cons_append, lowerAfter_cons, lowerAfter_cons, ih, List.append_assoc, lowered, lowered,
      (smallSigma_append_underscore before [] cs ds).2]

theorem lowerChars_intercalate (ws : List (List Char)) :
    lowerChars (['_'].intercalate ws) = ['_'].intercalate (ws.map lowerChars) := by
  induction ws with
  | nil => rfl
  | cons w ws ih =>
    cases ws with
    | nil => rw [List.map_singleton, List.intercalate_singleton, List.intercalate_singleton]
    | cons v ws =>
      rw [List.map_cons] at ih
      rw [List.map_cons, List.map_cons, List.intercalate_cons_cons, List.intercalate_cons_cons, ← ih, List.append_assoc,
        List.append_assoc, List.singleton_append, List.singleton_append, lowerChars, lowerAfter_append_underscore]
      rfl

end Stencil.Text
