import Mathlib.Data.List.Infix
import Stencil.Registry.Source
/-!
# Endings in any letter case

A text is lowered over all of Unicode, and then looked at for an ending in ASCII. That finds the ending in any
letter case and nothing else, unless it has an `i` or a `k` in it: these are the only ASCII characters that one
outside ASCII is lowered to, `i` from the one with a dot and `k` from the Kelvin sign.
-/

namespace Stencil

namespace Text

open Text.Property

/-! ## Characters outside ASCII -/

/-- The run of the Kelvin sign. -/
def kelvin : CaseRun := ⟨0x212A, 0x212A, 1, -8383⟩

/-- Every other run stays outside ASCII, and clear of what is no character. -/
theorem lowerRuns_outside : ∀ row ∈ lowerRuns, ∀ r ∈ row, r = kelvin ∨
    128 ≤ r.first + r.shift ∧
      (r.last + r.shift < 0xD800 ∨ 0xE000 ≤ r.first + r.shift ∧ r.last + r.shift < 0x110000) := by
  decide +kernel

theorem mapRuns_lowerRuns (n : Nat) : mapRuns lowerRuns n = n ∨ mapRuns lowerRuns n = 'k'.toNat ∨
    128 ≤ mapRuns lowerRuns n ∧ (mapRuns lowerRuns n).isValidChar := by
  unfold mapRuns
  cases h : lowerRuns.findSome? fun row => row.findSome? (·.image? n) with
  | none => exact .inl rfl
  | some m =>
    obtain ⟨row, hrow, h⟩ := List.exists_of_findSome?_eq_some h
    obtain ⟨r, hr, h⟩ := List.exists_of_findSome?_eq_some h
    rw [CaseRun.image?] at h
    split at h
    · next hon =>
      obtain rfl := Option.some.inj h
      rcases lowerRuns_outside row hrow r hr with rfl | hr
      · obtain rfl : n = 0x212A := Nat.le_antisymm hon.2.1 hon.1
        exact .inr (.inl rfl)
      · refine .inr (.inr ?_)
        simp only [Option.getD_some, Nat.isValidChar]
        omega
    · cases h

/-- The only character that becomes several is the capital `i` with a dot. -/
theorem eq_of_lookup_lowerExpansions {n : Nat} {ns : List Nat} (h : lowerExpansions.lookup n = some ns) :
    ns = [0x69, 0x307] := by
  rw [lowerExpansions, List.lookup_cons] at h
  split at h
  · exact (Option.some.inj h).symm
  · cases h

theorem lowerChar_ne_nil (c : Char) : lowerChar c ≠ [] := by
  unfold lowerChar
  split
  · exact List.cons_ne_nil _ _
  · split
    · next ns hns =>
      rw [eq_of_lookup_lowerExpansions hns]
      exact List.cons_ne_nil _ _
    · exact List.cons_ne_nil _ _

theorem toNat_ofNat {n : Nat} (h : n.isValidChar) : (Char.ofNat n).toNat = n := by
  rw [Char.ofNat, dif_pos h]
  rfl

theorem eq_of_mem_lowerChar {c x : Char} (hc : 128 ≤ c.toNat) (hx : x ∈ lowerChar c) (hascii : x.toNat < 128) :
    x = 'i' ∨ x = 'k' := by
  rw [lowerChar, if_neg (Nat.not_lt.2 hc)] at hx
  split at hx
  · next ns hns =>
    rw [eq_of_lookup_lowerExpansions hns] at hx
    rcases List.mem_pair.1 hx with rfl | rfl
    · exact .inl rfl
    · exact absurd hascii (by decide)
  · rw [List.mem_singleton] at hx
    subst hx
    rcases mapRuns_lowerRuns c.toNat with h | h | ⟨h, hvalid⟩
    · rw [h, Char.ofNat_toNat] at hascii
      omega
    · rw [h]
      exact .inr rfl
    · rw [toNat_ofNat hvalid] at hascii
      omega

theorem smallSigma_not_ascii (before after : List Char) : 128 ≤ (smallSigma before after).toNat := by
  unfold smallSigma
  split <;> decide

theorem toLower_of_not_ascii {c : Char} (h : 128 ≤ c.toNat) : c.toLower = c := by
  refine dif_neg ?_
  rintro ⟨-, hz⟩
  have hz : c.toNat ≤ 'Z'.toNat := hz
  exact absurd (h.trans hz) (by decide)

theorem ascii_of_toLower {c : Char} (h : c.toLower.toNat < 128) : c.toNat < 128 := by
  by_contra hc
  rw [toLower_of_not_ascii (Nat.not_lt.1 hc)] at h
  exact hc h

/-! ## Endings -/

/-- What no character outside ASCII is lowered to. -/
def Plain (x : Char) : Prop := x.toNat < 128 ∧ x ≠ 'i' ∧ x ≠ 'k'

/-- What stands for the first character of a text in lower case. -/
def lowered (before : List Char) (c : Char) (after : List Char) : List Char :=
  if c = capitalSigma then [smallSigma before after] else lowerChar c

theorem not_plain_of_mem_lowered {before after : List Char} {c x : Char} (hc : 128 ≤ c.toNat)
    (hx : x ∈ lowered before c after) : ¬ Plain x := by
  rintro ⟨hascii, hi, hk⟩
  unfold lowered at hx
  split at hx
  · rw [List.mem_singleton] at hx
    subst hx
    exact Nat.not_le.2 hascii (smallSigma_not_ascii _ _)
  · rcases eq_of_mem_lowerChar hc hx hascii with h | h
    · exact hi h
    · exact hk h

theorem lowered_ne_nil (before : List Char) (c : Char) (after : List Char) : lowered before c after ≠ [] := by
  unfold lowered
  split
  · exact List.cons_ne_nil _ _
  · exact lowerChar_ne_nil c

theorem lowerAfter_cons (before : List Char) (c : Char) (cs : List Char) :
    lowerAfter before (c :: cs) = lowered before c cs ++ lowerAfter (c :: before) cs := rfl

/-- A text whose lower case is plain is in ASCII. -/
theorem ascii_of_plain {before cs : List Char} (h : ∀ x ∈ lowerAfter before cs, Plain x) :
    ∀ c ∈ cs, c.toNat < 128 := by
  induction cs generalizing before with
  | nil => exact fun c hc => nomatch hc
  | cons c cs ih =>
    rw [lowerAfter_cons, List.forall_mem_append] at h
    rw [List.forall_mem_cons]
    refine ⟨?_, ih h.2⟩
    by_contra hc
    obtain ⟨x, hx⟩ := List.exists_mem_of_ne_nil _ (lowered_ne_nil before c cs)
    exact not_plain_of_mem_lowered (Nat.not_lt.1 hc) hx (h.1 x hx)

/-- A plain ending does not reach into what stands for a character outside ASCII. -/
theorem suffix_of_suffix_lowered_append {suffix before after rest : List Char} {c : Char}
    (h : ∀ x ∈ suffix, Plain x) (hc : 128 ≤ c.toNat) (hs : suffix <:+ lowered before c after ++ rest) :
    suffix <:+ rest := by
  rcases List.suffix_or_suffix_of_suffix hs (List.suffix_append _ _) with hs | ⟨p, rfl⟩
  · exact hs
  · have hp : p <:+ lowered before c after := List.suffix_append_self_iff.1 hs
    have hnil : p = [] := List.eq_nil_iff_forall_not_mem.2 fun x hx =>
      not_plain_of_mem_lowered hc (hp.subset hx) (h x (List.mem_append_left _ hx))
    rw [hnil, List.nil_append]

/-- A plain ending is found in the lower case of a text if the text ends with it in any letter case, and not
otherwise. -/
theorem suffix_lowerAfter_iff {suffix : List Char} (h : ∀ x ∈ suffix, Plain x) {before cs : List Char} :
    suffix <:+ lowerAfter before cs ↔ ∃ ending, ending <:+ cs ∧ ending.map Char.toLower = suffix := by
  induction cs generalizing before with
  | nil => simp [lowerAfter, eq_comm]
  | cons c cs ih =>
    constructor
    · intro hs
      rw [lowerAfter_cons] at hs
      have hlater : suffix <:+ lowerAfter (c :: before) cs →
          ∃ ending, ending <:+ c :: cs ∧ ending.map Char.toLower = suffix := by
        intro hs
        obtain ⟨ending, hending, heq⟩ := ih.1 hs
        exact ⟨ending, hending.trans (List.suffix_cons _ _), heq⟩
      by_cases hc : c.toNat < 128
      · have hone : lowered before c cs = [c.toLower] := by
          rw [lowered, if_neg (ne_capitalSigma_of_ascii hc), lowerChar_of_ascii hc]
        rw [hone, List.singleton_append] at hs
        rcases List.suffix_cons_iff.1 hs with rfl | hs
        · -- the ending is the whole text
          have hrest := ascii_of_plain fun x hx => h x (List.mem_cons_of_mem _ hx)
          exact ⟨c :: cs, List.suffix_refl _, by rw [List.map_cons, lowerAfter_of_ascii _ _ hrest]⟩
        · exact hlater hs
      · exact hlater (suffix_of_suffix_lowered_append h (Nat.not_lt.1 hc) hs)
    · rintro ⟨ending, hending, rfl⟩
      rcases List.suffix_cons_iff.1 hending with rfl | hending
      · have hascii : ∀ d ∈ c :: cs, d.toNat < 128 := fun d hd =>
          ascii_of_toLower (h _ (List.mem_map_of_mem hd)).1
        rw [lowerAfter_of_ascii _ _ hascii]
      · exact List.suffix_append_of_suffix (ih.2 ⟨ending, hending, rfl⟩)

end Text

/-- The name of a template ends as the suffix says, in any letter case. -/
theorem isTemplateFileName_iff {fileName : String} : isTemplateFileName fileName = true ↔
    ∃ ending, ending <:+ fileName.toList ∧ ending.map Char.toLower = templateSuffix := by
  have hsuffix : templateSuffix = ['.', 'l', 't'] := by decide
  have hplain : ∀ x ∈ templateSuffix, Text.Plain x := by simp [hsuffix, Text.Plain]
  rw [isTemplateFileName, List.isSuffixOf_iff_suffix, Text.lowerChars, Text.suffix_lowerAfter_iff hplain]

end Stencil
