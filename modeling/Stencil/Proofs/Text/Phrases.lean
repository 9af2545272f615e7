import Stencil.Proofs.Text.PluralWords
/-!
# The plural of a phrase

An inflector is handed phrases: words of lower-case letters with underscores between them. It looks for the last
underscore, whatever stands in front of it (`inflect_append_underscore`), and the plural that it puts behind it is a
word again. So what comes out is a phrase of as many words, and all but the last are the ones that it was handed
(`inflect_phrase`).
-/

namespace Stencil.Text

/-! ## The last underscore -/

theorem phraseHead_append {head w : List Char} (hw : '_' ∉ w) : phraseHead (head ++ '_' :: w) = head ++ ['_'] := by
  have hphrase : phraseHead (head ++ '_' :: w) ++ w = (head ++ ['_']) ++ w := by
    have hwhole := phraseHead_append_phraseLast (head ++ '_' :: w)
    rw [phraseLast_append hw] at hwhole
    exact hwhole.trans (List.append_cons head '_' w)
  exact List.append_cancel_right hphrase

/-- What stands up to the last underscore stays. -/
theorem inflectChars_append_underscore {head w : List Char} (hw : '_' ∉ w) :
    inflectChars (head ++ '_' :: w) = head ++ '_' :: pluralWord w := by
  rw [inflectChars, if_neg (by simp), phraseHead_append hw, phraseLast_append hw, List.append_assoc,
    List.singleton_append]

/-- A phrase of one word is that word. -/
theorem inflectChars_of_not_mem {w : List Char} (hne : w ≠ []) (hw : '_' ∉ w) : inflectChars w = pluralWord w := by
  have hlast : phraseLast w = w := by
    rw [← phraseLast_cons_underscore, ← List.nil_append ('_' :: w), phraseLast_append hw]
  have hhead : phraseHead w = [] := by
    have hphrase := phraseHead_append_phraseLast w
    rwa [hlast, List.append_left_eq_self] at hphrase
  rw [inflectChars, if_neg (by simpa using hne), hhead, hlast, List.nil_append]

theorem inflect_append_underscore (head : String) {w : String} (hne : w ≠ "") (hw : '_' ∉ w.toList) :
    inflect (head ++ "_" ++ w) = head ++ "_" ++ inflect w := by
  have hphrase : (head ++ "_" ++ w).toList = head.toList ++ '_' :: w.toList := by simp
  rw [← String.toList_inj, inflect, inflect, hphrase, inflectChars_append_underscore hw,
    inflectChars_of_not_mem (by simpa using hne) hw]
  simp

/-- Of words that are joined only the last one changes. -/
theorem inflect_intercalate (ws : List String) {w : String} (hne : w ≠ "") (hw : '_' ∉ w.toList) :
    inflect ("_".intercalate (ws ++ [w])) = "_".intercalate (ws ++ [inflect w]) := by
  by_cases hws : ws = []
  · rw [hws, List.nil_append, List.nil_append, String.intercalate_singleton, String.intercalate_singleton]
  · rw [String.intercalate_append_of_ne_nil hws (by simp), String.intercalate_append_of_ne_nil hws (by simp),
      String.intercalate_singleton, String.intercalate_singleton, inflect_append_underscore _ hne hw]

/-! ## Words -/

/-- Lower-case letters of ASCII, at least one. -/
structure IsWord (s : String) : Prop where
  ne_empty : s ≠ ""
  lower : ∀ c ∈ s.toList, c.isLower = true

instance (s : String) : Decidable (IsWord s) :=
  haveI : Decidable (∀ c ∈ s.toList, c.isLower = true) := List.decidableBAll _ _
  decidable_of_iff (s ≠ "" ∧ ∀ c ∈ s.toList, c.isLower = true) ⟨fun h => ⟨h.1, h.2⟩, fun h => ⟨h.1, h.2⟩⟩

theorem IsWord.underscore_not_mem {s : String} (h : IsWord s) : '_' ∉ s.toList := by
  intro hmem
  exact absurd (h.lower '_' hmem) (by decide)

/-- The plural of a word is a word with the same first letter. -/
theorem IsWord.inflect {w : String} (h : IsWord w) :
    IsWord (inflect w) ∧ (Text.inflect w).toList.head? = w.toList.head? := by
  have hplural : (Text.inflect w).toList = pluralWord w.toList := by
    rw [Text.inflect, String.toList_ofList, inflectChars_of_not_mem (by simpa using h.ne_empty) h.underscore_not_mem]
  obtain ⟨a, rest, hletters⟩ := List.exists_cons_of_ne_nil (by simpa using h.ne_empty : w.toList ≠ [])
  have hlower := h.lower
  rw [hletters] at hlower
  obtain ⟨others, hothers, hlow, -⟩ := pluralWord_cons hlower
  rw [hletters, hothers] at hplural
  refine ⟨⟨?_, ?_⟩, ?_⟩
  · rintro hempty
    rw [hempty] at hplural
    cases hplural
  · rw [hplural]
    exact List.forall_mem_cons.2 ⟨hlower a List.mem_cons_self, hlow⟩
  · rw [hplural, hletters]
    rfl

/-- The words of a phrase are found again between its underscores. -/
theorem splitOn_intercalate_words {ws : List String} (hne : ws ≠ []) (h : ∀ w ∈ ws, IsWord w) :
    (("_".intercalate ws).toList.splitOn '_').map String.ofList = ws := by
  have hnone : ∀ cs ∈ ws.map String.toList, '_' ∉ cs := by
    intro cs hcs
    obtain ⟨w, hw, rfl⟩ := List.mem_map.1 hcs
    exact (h w hw).underscore_not_mem
  have htext : ("_".intercalate ws).toList = ['_'].intercalate (ws.map String.toList) := String.toList_intercalate
  rw [htext, List.splitOn_intercalate '_' hnone (by simpa using hne), List.map_map]
  simp [Function.comp_def]

/-- Inflecting keeps phrases: the plural of a word is a word with the same first letter, and the plural of a phrase has
the words of the phrase, but for the last one, in whose place its own plural stands. -/
theorem inflect_phrase (ws : List String) (w : String) (h : ∀ v ∈ ws ++ [w], IsWord v) :
    (IsWord (inflect w) ∧ (inflect w).toList.head? = w.toList.head?) ∧
      inflect ("_".intercalate (ws ++ [w])) = "_".intercalate (ws ++ [inflect w]) ∧
      ((inflect ("_".intercalate (ws ++ [w]))).toList.splitOn '_').map String.ofList = ws ++ [inflect w] := by
  rw [List.forall_mem_append, List.forall_mem_singleton] at h
  obtain ⟨hws, hw⟩ := h
  have hphrase := inflect_intercalate ws hw.ne_empty hw.underscore_not_mem
  have hplural : ∀ v ∈ ws ++ [inflect w], IsWord v :=
    List.forall_mem_append.2 ⟨hws, List.forall_mem_singleton.2 hw.inflect.1⟩
  refine ⟨hw.inflect, hphrase, ?_⟩
  rw [hphrase, splitOn_intercalate_words (by simp) hplural]

/-- A last word of one letter, in front of which a rule on `y` would look for another letter. -/
theorem inflect_phrase_letter :
    (∀ v ∈ ["ox", "mouse"] ++ ["y"], IsWord v) ∧ IsWord (inflect "y") ∧
      inflect "ox_mouse_y" = "ox_mouse_ys" ∧
      ((inflect "ox_mouse_y").toList.splitOn '_').map String.ofList = ["ox", "mouse", "ys"] := by
  have hwords : ∀ v ∈ ["ox", "mouse"] ++ ["y"], IsWord v := by decide
  have hplural : inflect "y" = "ys" := by decide
  have hjoined : "_".intercalate (["ox", "mouse"] ++ ["y"]) = "ox_mouse_y" := by decide
  obtain ⟨⟨hword, -⟩, hphrase, hsplit⟩ := inflect_phrase ["ox", "mouse"] "y" hwords
  rw [hjoined, hplural] at hphrase hsplit
  exact ⟨hwords, hword, hphrase, hsplit⟩

end Stencil.Text
