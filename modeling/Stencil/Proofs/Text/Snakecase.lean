import Stencil.Proofs.Text.Fragments
import Stencil.Proofs.Text.Lowering
/-!
# The phrase of an identifier

Lowering leaves a word whole: it has no capitals then, and digits only if it had digits only. So the words can be told
from the phrase again (`words_snakeChars`), as the pieces between underscores and as the words of the phrase, and the
phrase of the phrase is the phrase (`snakecase_eq_intercalate`). This holds of all characters. That a capital sigma
is lowered by its place makes no difference, since a word's end is one in the phrase as well.
-/

namespace Stencil.Text

/-! ## Words in lower case -/

theorem lowerChars_ne_nil {cs : List Char} (h : cs ≠ []) : lowerChars cs ≠ [] := by
  obtain ⟨c, cs, rfl⟩ := List.exists_cons_of_ne_nil h
  rw [lowerChars, lowerAfter_cons]
  exact List.append_ne_nil_of_left_ne_nil (lowered_ne_nil [] c cs) _

theorem whole_lowerChars {w : List Char} (h : Whole w) : Whole (lowerChars w) := by
  obtain ⟨digits, hdigits⟩ := h.isDigit_eq
  have hkind : ∀ x ∈ lowerChars w, x.isUpper = false ∧ x.isDigit = digits ∧ isSeparator x = false := by
    intro x hx
    obtain ⟨c, hc, front, behind, hmem⟩ := exists_of_mem_lowerAfter hx
    obtain ⟨hupper, hdigit, hsep⟩ := kind_of_mem_lowered hmem
    exact ⟨hupper, hdigit.trans (hdigits c hc), hsep.trans (h.no_separator c hc)⟩
  exact whole_of_no_upper (lowerChars_ne_nil h.ne_nil) (fun x hx => (hkind x hx).2.2) (fun x hx => (hkind x hx).1)
    fun x hx => (hkind x hx).2.1

theorem whole_of_mem_map_lowerChars {cs w : List Char} (hw : w ∈ (words cs).map lowerChars) : Whole w := by
  obtain ⟨v, hv, rfl⟩ := List.mem_map.1 hw
  exact whole_lowerChars (whole_of_mem_words hv)

/-! ## The phrase -/

theorem snakeChars_eq_intercalate (cs : List Char) :
    snakeChars cs = ['_'].intercalate ((words cs).map lowerChars) := lowerChars_intercalate (words cs)

/-- The words of a phrase are those of the text, each in lower case. -/
theorem words_snakeChars (cs : List Char) : words (snakeChars cs) = (words cs).map lowerChars := by
  rw [snakeChars_eq_intercalate, words_intercalate fun w hw => whole_of_mem_map_lowerChars hw]

theorem snakeChars_snakeChars (cs : List Char) : snakeChars (snakeChars cs) = snakeChars cs := by
  have htwice : lowerChars ∘ lowerChars = lowerChars := funext lowerChars_lowerChars
  rw [snakeChars_eq_intercalate (snakeChars cs), words_snakeChars, List.map_map, htwice, ← snakeChars_eq_intercalate]

theorem Whole.underscore_not_mem {w : List Char} (h : Whole w) : '_' ∉ w :=
  fun hmem => absurd (h.no_separator '_' hmem) (by decide)

theorem splitOn_snakeChars {cs : List Char} (hne : words cs ≠ []) :
    (snakeChars cs).splitOn '_' = (words cs).map lowerChars := by
  rw [snakeChars_eq_intercalate, List.splitOn_intercalate '_' _ (by simpa using hne)]
  exact fun w hw => (whole_of_mem_map_lowerChars hw).underscore_not_mem

theorem snakeChars_eq_nil_iff {cs : List Char} : snakeChars cs = [] ↔ words cs = [] := by
  constructor
  · intro hnil
    have hwords := words_snakeChars cs
    rw [hnil, words_nil, eq_comm, List.map_eq_nil_iff] at hwords
    exact hwords
  · intro hwords
    rw [snakeChars_eq_intercalate, hwords]
    rfl

/-! ## Where underscores stand -/

/-- An underscore at an end of a text, or next to another one, leaves an empty piece. -/
theorem underscores_of_splitOn {cs : List Char} (h : [] ∉ cs.splitOn '_') :
    ¬ ['_'] <+: cs ∧ ¬ ['_'] <:+ cs ∧ ¬ ['_', '_'] <:+: cs := by
  have hpieces : ∀ front behind : List Char,
      (front ++ '_' :: behind).splitOn '_' = front.splitOn '_' ++ behind.splitOn '_' :=
    fun front behind => List.splitOnP_append_cons front behind (beq_self_eq_true '_')
  have hempty : [] ∈ ([] : List Char).splitOn '_' := by simp
  refine ⟨?_, ?_, ?_⟩
  · rintro ⟨behind, rfl⟩
    exact h (hpieces [] behind ▸ List.mem_append_left _ hempty)
  · rintro ⟨front, rfl⟩
    exact h (hpieces front [] ▸ List.mem_append_right _ hempty)
  · rintro ⟨front, behind, rfl⟩
    have hmem : [] ∈ ('_' :: behind).splitOn '_' := hpieces [] behind ▸ List.mem_append_left _ hempty
    refine h ?_
    rw [List.append_assoc]
    exact hpieces front ('_' :: behind) ▸ List.mem_append_right _ hmem

theorem underscores_snakeChars (cs : List Char) :
    ¬ ['_'] <+: snakeChars cs ∧ ¬ ['_'] <:+ snakeChars cs ∧ ¬ ['_', '_'] <:+: snakeChars cs := by
  by_cases hwords : words cs = []
  · simp [snakeChars_eq_nil_iff.2 hwords]
  · refine underscores_of_splitOn ?_
    rw [splitOn_snakeChars hwords]
    exact fun hnil => (whole_of_mem_map_lowerChars hnil).ne_nil rfl

/-- The phrase of an identifier is its words, each lowered on its own, with underscores between them. The words are
found in it again, between underscores and by segmentation, so there is one for each word of the identifier, no
underscore is at an end or doubled, and the phrase is its own phrase. -/
theorem snakecase_eq_intercalate (s : String) :
    snakecase s = "_".intercalate ((splitWords s).map lower) ∧
      (if snakecase s = "" then [] else ((snakecase s).toList.splitOn '_').map String.ofList) =
        (splitWords s).map lower ∧
      splitWords (snakecase s) = (splitWords s).map lower ∧
      (splitWords (snakecase s)).length = (splitWords s).length ∧
      (¬ ['_'] <+: (snakecase s).toList ∧ ¬ ['_'] <:+ (snakecase s).toList ∧
        ¬ ['_', '_'] <:+: (snakecase s).toList) ∧
      snakecase (snakecase s) = snakecase s := by
  have hphrase : (snakecase s).toList = snakeChars s.toList := String.toList_ofList
  have hwords : (splitWords s).map lower = ((words s.toList).map lowerChars).map String.ofList := by
    simp [splitWords, lower]
  have hsplit : splitWords (snakecase s) = (splitWords s).map lower := by
    rw [splitWords, hphrase, words_snakeChars, hwords]
  refine ⟨?_, ?_, hsplit, ?_, ?_, ?_⟩
  · apply String.toList_injective
    simp [hphrase, snakeChars_eq_intercalate, String.toList_intercalate, hwords, Function.comp_def]
  · have hempty : snakecase s = "" ↔ words s.toList = [] := by
      rw [← String.toList_eq_nil_iff, hphrase, snakeChars_eq_nil_iff]
    rw [if_congr hempty rfl rfl, hphrase, hwords]
    split
    · next hnil => simp [hnil]
    · next hne => rw [splitOn_snakeChars hne]
  · rw [hsplit, List.length_map]
  · rw [hphrase]
    exact underscores_snakeChars s.toList
  · rw [snakecase, hphrase, snakeChars_snakeChars, snakecase]

example : snakecase "ΟΔΟΣ_Α" = "οδος_α" := by decide +kernel

end Stencil.Text
