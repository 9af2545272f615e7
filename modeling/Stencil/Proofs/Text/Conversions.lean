import Stencil.Proofs.Text.Recasing
/-!
# The characters of a conversion

A case conversion puts the words of a text together again. In ASCII it changes the case of a character into another
one and back (`toUpper_of_ascii`), so all that a conversion loses are the separators, and letter case
(`lower_conversions`).
-/

namespace Stencil.Text

theorem toUpper_of_ascii {c : Char} (h : c.toNat < 128) :
    c.toUpper.toNat < 128 ∧ isSeparator c.toUpper = isSeparator c ∧ c.toUpper.isLower = false ∧
      c.toUpper.isDigit = c.isDigit ∧ c.toUpper.toUpper = c.toUpper ∧ c.toUpper.toLower = c.toLower :=
  of_ascii h (by decide)

theorem toUpper_eq_self_of_ascii {c : Char} (h : c.toNat < 128) (hc : c.isLower = false) : c.toUpper = c := by
  have hsame : c.isLower = false → c.toUpper = c := of_ascii h (by decide)
  exact hsame hc

theorem ascii_of_mem_words {cs : List Char} (h : ∀ c ∈ cs, c.toNat < 128) {w : List Char} (hw : w ∈ words cs) :
    ∀ c ∈ w, c.toNat < 128 :=
  fun c hc => h c (mem_of_mem_words hw hc).1

theorem ascii_capitalize {w : List Char} (h : ∀ c ∈ w, c.toNat < 128) : ∀ c ∈ capitalize w, c.toNat < 128 := by
  cases w with
  | nil => exact h
  | cons a w =>
    rw [List.forall_mem_cons] at h
    rw [capitalize_cons h.1]
    exact List.forall_mem_cons.2 ⟨(toUpper_of_ascii h.1).1, h.2⟩

theorem capitalize_capitalize {w : List Char} (h : ∀ c ∈ w, c.toNat < 128) :
    capitalize (capitalize w) = capitalize w := by
  cases w with
  | nil => rfl
  | cons a w =>
    have ha := h a List.mem_cons_self
    obtain ⟨hascii, -, -, -, htwice, -⟩ := toUpper_of_ascii ha
    rw [capitalize_cons ha, capitalize_cons hascii, htwice]

/-! ## The same characters -/

theorem ascii_flatMap_capitalize {ws : List (List Char)} (h : ∀ w ∈ ws, ∀ c ∈ w, c.toNat < 128) :
    ∀ c ∈ ws.flatMap capitalize, c.toNat < 128 := by
  intro c hc
  obtain ⟨w, hw, hc⟩ := List.mem_flatMap.1 hc
  exact ascii_capitalize (h w hw) c hc

theorem ascii_map_toLower {cs : List Char} (h : ∀ c ∈ cs, c.toNat < 128) :
    ∀ c ∈ cs.map Char.toLower, c.toNat < 128 := by
  intro d hd
  obtain ⟨c, hc, rfl⟩ := List.mem_map.1 hd
  exact (toLower_of_ascii (h c hc)).1

theorem map_toLower_map_toLower {cs : List Char} (h : ∀ c ∈ cs, c.toNat < 128) :
    (cs.map Char.toLower).map Char.toLower = cs.map Char.toLower := by
  rw [List.map_map]
  exact List.map_congr_left fun c hc => (toLower_of_ascii (h c hc)).2.2.2

theorem map_toLower_capitalize {w : List Char} (h : ∀ c ∈ w, c.toNat < 128) :
    (capitalize w).map Char.toLower = w.map Char.toLower := by
  cases w with
  | nil => rfl
  | cons a w =>
    have ha := h a List.mem_cons_self
    rw [capitalize_cons ha, List.map_cons, List.map_cons, (toUpper_of_ascii ha).2.2.2.2.2]

theorem map_toLower_flatMap_capitalize {ws : List (List Char)} (h : ∀ w ∈ ws, ∀ c ∈ w, c.toNat < 128) :
    (ws.flatMap capitalize).map Char.toLower = ws.flatten.map Char.toLower := by
  rw [List.map_flatMap, List.map_flatten, ← List.flatMap_def]
  exact List.flatMap_congr fun w hw => map_toLower_capitalize (h w hw)

/-- Without the underscores between them texts are in a row, if they have none of their own. -/
theorem filter_intercalate {ws : List (List Char)} (h : ∀ w ∈ ws, '_' ∉ w) :
    (['_'].intercalate ws).filter (· != '_') = ws.flatten := by
  have hself : ∀ w ∈ ws, w.filter (· != '_') = w := fun w hw =>
    List.filter_eq_self.2 fun c hc => bne_iff_ne.2 fun hunderscore => h w hw (hunderscore ▸ hc)
  induction ws with
  | nil => rfl
  | cons w ws ih =>
    rw [List.forall_mem_cons] at h hself
    cases ws with
    | nil => rw [List.intercalate_singleton, hself.1, List.flatten_singleton]
    | cons v ws =>
      have hmark : ['_'].filter (· != '_') = [] := rfl
      rw [List.intercalate_cons_cons, List.flatten_cons, List.filter_append, List.filter_append, hself.1, hmark,
        ih h.2 hself.2, List.append_nil]

section ascii

variable {cs : List Char} (h : ∀ c ∈ cs, c.toNat < 128)

include h

theorem lowerChars_titleChars : lowerChars (titleChars cs) = (words cs).flatten.map Char.toLower := by
  have hwords : ∀ w ∈ words cs, ∀ c ∈ w, c.toNat < 128 := fun w hw => ascii_of_mem_words h hw
  rw [titleChars, lowerChars_of_ascii (ascii_flatMap_capitalize hwords), map_toLower_flatMap_capitalize hwords]

theorem lowerChars_camelChars : lowerChars (camelChars cs) = (words cs).flatten.map Char.toLower := by
  have hwords : ∀ w ∈ words cs, ∀ c ∈ w, c.toNat < 128 := fun w hw => ascii_of_mem_words h hw
  rw [camelChars]
  cases hcs : words cs with
  | nil => rfl
  | cons first rest =>
    rw [hcs, List.forall_mem_cons] at hwords
    obtain ⟨hfirst, hrest⟩ := hwords
    have hascii := List.forall_mem_append.2 ⟨ascii_map_toLower hfirst, ascii_flatMap_capitalize hrest⟩
    simp only
    rw [lowerChars_of_ascii hfirst, lowerChars_of_ascii hascii, List.map_append, map_toLower_map_toLower hfirst,
      map_toLower_flatMap_capitalize hrest, List.flatten_cons, List.map_append]

theorem filter_snakeChars : (snakeChars cs).filter (· != '_') = (words cs).flatten.map Char.toLower := by
  have hlowered : (words cs).map lowerChars = (words cs).map (·.map Char.toLower) :=
    List.map_congr_left fun w hw => lowerChars_of_ascii (ascii_of_mem_words h hw)
  rw [snakeChars_eq_intercalate,
    filter_intercalate fun w hw => (whole_of_mem_map_lowerChars hw).underscore_not_mem, hlowered, List.map_flatten]

end ascii

/-- In title case, in camel case and in the phrase without its underscores the characters of a text in ASCII are those
of the text without its separators: all of them, once each and in their order, up to letter case. -/
theorem lower_conversions (s : String) (hs : ∀ c ∈ s.toList, c.toNat < 128) :
    let kept := lower (String.ofList (s.toList.filter (!isSeparator ·)))
    lower (titlecase s) = kept ∧ lower (camelcase s) = kept ∧
      String.ofList ((snakecase s).toList.filter (· != '_')) = kept := by
  intro kept
  have hkept : kept = String.ofList ((words s.toList).flatten.map Char.toLower) := by
    have hascii : ∀ c ∈ s.toList.filter (!isSeparator ·), c.toNat < 128 := fun c hc => hs c (List.mem_filter.1 hc).1
    simp only [kept]
    rw [lower, String.toList_ofList, lowerChars_of_ascii hascii, flatten_words]
  rw [hkept, lower, lower, titlecase, camelcase, snakecase, String.toList_ofList, String.toList_ofList,
    String.toList_ofList, lowerChars_titleChars hs, lowerChars_camelChars hs, filter_snakeChars hs]
  exact ⟨rfl, rfl, rfl⟩

/-- Boundaries of every kind, separators in a row and at the ends, and a mark that is no separator. -/
theorem lower_conversions_boundaries :
    (∀ c ∈ "_myHTTPServer4__go. X!".toList, c.toNat < 128) ∧
      lower (titlecase "_myHTTPServer4__go. X!") = "myhttpserver4go.x" ∧
      lower (camelcase "_myHTTPServer4__go. X!") = "myhttpserver4go.x" ∧
      String.ofList ((snakecase "_myHTTPServer4__go. X!").toList.filter (· != '_')) = "myhttpserver4go.x" := by
  have hs : ∀ c ∈ "_myHTTPServer4__go. X!".toList, c.toNat < 128 := by simp
  have hkept : lower (String.ofList ("_myHTTPServer4__go. X!".toList.filter (!isSeparator ·))) = "myhttpserver4go.x" := by
    decide +kernel
  have hsame := lower_conversions "_myHTTPServer4__go. X!" hs
  simp only [hkept] at hsame
  exact ⟨hs, hsame⟩

end Stencil.Text
