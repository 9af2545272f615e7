import Stencil.Proofs.Text.Conversions
/-!
# Words in a row

In title and camel case the words stand in a row with nothing between them. Segmenting the row finds the words again,
or several of them `Fused` into one: none is cut anew, as what stands behind a cut begins a word already
(`fused_words_flatten`). So all words but the first begin as a conversion leaves them. The first one of camel case is
in lower case, and is not fused with the next one unless both are numbers. That is why a second conversion changes
nothing (`titlecase_titlecase`).
-/

namespace Stencil.Text

/-! ## Words that are fused -/

/-- The second texts are the first ones, with some neighbours put together. -/
inductive Fused : List (List Char) → List (List Char) → Prop
  | nil : Fused [] []
  | apart (w : List Char) {ws vs : List (List Char)} : Fused ws vs → Fused (w :: ws) (w :: vs)
  | joined (w : List Char) {v : List Char} {ws vs : List (List Char)} :
      Fused ws (v :: vs) → Fused (w :: ws) ((w ++ v) :: vs)

theorem Fused.flatten_eq {ws vs : List (List Char)} (h : Fused ws vs) : vs.flatten = ws.flatten := by
  induction h with
  | nil => rfl
  | apart w _ ih => rw [List.flatten_cons, List.flatten_cons, ih]
  | joined w _ ih => rw [List.flatten_cons, List.flatten_cons, List.append_assoc, ← ih, List.flatten_cons]

theorem capitalize_append {w : List Char} (hne : w ≠ []) (v : List Char) :
    capitalize (w ++ v) = capitalize w ++ v := by
  obtain ⟨a, w, rfl⟩ := List.exists_cons_of_ne_nil hne
  rw [List.cons_append, capitalize, capitalize, List.append_assoc]

/-- What is fused begins as the first part does. -/
theorem Fused.capitalize_eq {ws vs : List (List Char)} (h : Fused ws vs)
    (hws : ∀ w ∈ ws, w ≠ [] ∧ capitalize w = w) : ∀ v ∈ vs, capitalize v = v := by
  induction h with
  | nil => exact fun v hv => nomatch hv
  | apart w _ ih =>
    rw [List.forall_mem_cons] at hws
    exact List.forall_mem_cons.2 ⟨hws.1.2, ih hws.2⟩
  | joined w _ ih =>
    rw [List.forall_mem_cons] at hws
    obtain ⟨⟨hne, hself⟩, hws⟩ := hws
    exact List.forall_mem_cons.2 ⟨by rw [capitalize_append hne, hself], (List.forall_mem_cons.1 (ih hws)).2⟩

/-- A whole text joins the first word of what follows it, if it is not apart from that. Only a lower-case letter at
the beginning of the latter could have cut its last capital off. -/
theorem words_append_of_not_apart {w ds : List Char} (hw : Whole w) (hlower : ∀ d ∈ ds.head?, d.isLower = false)
    (h : ¬ Apart w ds) : words ds ≠ [] ∧ words (w ++ ds) = (words ds).modifyHead (w ++ ·) := by
  induction hw with
  | single ha => exact words_cons_of_not_apart h
  | @cons a cs ha hcs ih =>
    obtain ⟨b, cs, rfl⟩ := List.exists_cons_of_ne_nil hcs.ne_nil
    obtain ⟨hne, hwords⟩ := ih (mt apart_cons_cons.2 h)
    have hsees : cutsBetween a b (cs ++ ds).head? = cutsBetween a b cs.head? := by
      cases cs with
      | cons c cs => rfl
      | nil =>
        refine (tame_cutsBetween.sees a (.inr ⟨rfl, fun d hd ⟨_, hdlower⟩ => ?_⟩)).symm
        rw [hlower d hd] at hdlower
        cases hdlower
    have hjoined : ¬ Apart [a] (b :: cs ++ ds) := by
      rw [List.cons_append, not_apart_iff, hsees, ← not_apart_iff]
      exact ha
    refine ⟨hne, ?_⟩
    rw [List.cons_append, (words_cons_of_not_apart hjoined).2, hwords, List.modifyHead_modifyHead]
    rfl

theorem fused_words_flatten {ws : List (List Char)} (hws : ∀ w ∈ ws, Whole w)
    (hlower : ∀ w ∈ ws.tail, ∀ c ∈ w.head?, c.isLower = false) : Fused ws (words ws.flatten) := by
  induction ws with
  | nil => exact .nil
  | cons w ws ih =>
    rw [List.forall_mem_cons] at hws
    rw [List.tail_cons] at hlower
    have hrest := ih hws.2 fun v hv => hlower v (List.mem_of_mem_tail hv)
    have hhead : ∀ c ∈ ws.flatten.head?, c.isLower = false := by
      intro c hc
      rw [List.head?_flatten] at hc
      obtain ⟨v, hv, hc⟩ := List.exists_of_findSome?_eq_some hc
      exact hlower v hv c hc
    rw [List.flatten_cons]
    by_cases h : Apart w ws.flatten
    · rw [words_append h, hws.1.words_eq, List.singleton_append]
      exact .apart w hrest
    · obtain ⟨hne, hwords⟩ := words_append_of_not_apart hws.1 hhead h
      obtain ⟨v, vs, hv⟩ := List.exists_cons_of_ne_nil hne
      rw [hwords, hv]
      exact .joined w (hv ▸ hrest)

/-! ## Words in title case -/

theorem whole_capitalize {w : List Char} (hw : Whole w) (h : ∀ c ∈ w, c.toNat < 128) : Whole (capitalize w) := by
  cases hw with
  | @single a ha =>
    have hascii := h a List.mem_cons_self
    rw [capitalize_cons hascii]
    exact .single (by rw [(toUpper_of_ascii hascii).2.1, ha])
  | @cons a cs ha hcs =>
    have hascii := h a List.mem_cons_self
    obtain ⟨b, cs, rfl⟩ := List.exists_cons_of_ne_nil hcs.ne_nil
    obtain ⟨-, hsep, hlower, hdigit, -⟩ := toUpper_of_ascii hascii
    rw [capitalize_cons hascii]
    refine .cons ?_ hcs
    cases halower : a.isLower with
    | false => rwa [toUpper_eq_self_of_ascii hascii halower]
    | true =>
      -- no capital stands behind a letter in lower case, so none does behind its capital
      rw [not_apart_iff] at ha ⊢
      obtain ⟨hasep, hbsep, hcut⟩ := ha
      simp only [cutsBetween, halower, Bool.true_and, Bool.or_eq_false_iff] at hcut
      refine ⟨by rw [hsep, hasep], hbsep, ?_⟩
      simp [cutsBetween, hlower, hcut.1.1, hdigit, bne_eq_false_iff_eq.1 hcut.2]

theorem exists_of_mem_head?_capitalize {w : List Char} (h : ∀ c ∈ w, c.toNat < 128) {a : Char}
    (ha : a ∈ (capitalize w).head?) : ∃ c ∈ w, a = c.toUpper := by
  cases w with
  | nil => cases ha
  | cons c w =>
    rw [capitalize_cons (h c List.mem_cons_self)] at ha
    exact ⟨c, List.mem_cons_self, (Option.some.inj ha).symm⟩

theorem exists_of_mem_head?_flatMap_capitalize {ws : List (List Char)} (h : ∀ w ∈ ws, ∀ c ∈ w, c.toNat < 128)
    {a : Char} (ha : a ∈ (ws.flatMap capitalize).head?) : ∃ w ∈ ws, ∃ c ∈ w, a = c.toUpper := by
  rw [List.head?_flatMap] at ha
  obtain ⟨w, hw, ha⟩ := List.exists_of_findSome?_eq_some ha
  exact ⟨w, hw, exists_of_mem_head?_capitalize (h w hw) ha⟩

theorem isLower_head?_capitalize {w : List Char} (h : ∀ c ∈ w, c.toNat < 128) :
    ∀ a ∈ (capitalize w).head?, a.isLower = false := by
  intro a ha
  obtain ⟨c, hc, rfl⟩ := exists_of_mem_head?_capitalize h ha
  exact (toUpper_of_ascii (h c hc)).2.2.1

section capitalized

variable {ws : List (List Char)} (hws : ∀ w ∈ ws, Whole w) (h : ∀ w ∈ ws, ∀ c ∈ w, c.toNat < 128)

include hws h

theorem fused_map_capitalize : Fused (ws.map capitalize) (words (ws.flatMap capitalize)) := by
  rw [List.flatMap_def]
  apply fused_words_flatten
  · intro v hv
    obtain ⟨w, hw, rfl⟩ := List.mem_map.1 hv
    exact whole_capitalize (hws w hw) (h w hw)
  · intro v hv
    obtain ⟨w, hw, rfl⟩ := List.mem_map.1 (List.mem_of_mem_tail hv)
    exact isLower_head?_capitalize (h w hw)

/-- The words in a row of capitalised ones are capitalised. -/
theorem capitalize_of_mem_words : ∀ v ∈ words (ws.flatMap capitalize), capitalize v = v := by
  apply (fused_map_capitalize hws h).capitalize_eq
  intro v hv
  obtain ⟨w, hw, rfl⟩ := List.mem_map.1 hv
  exact ⟨(whole_capitalize (hws w hw) (h w hw)).ne_nil, capitalize_capitalize (h w hw)⟩

theorem flatMap_capitalize_words : (words (ws.flatMap capitalize)).flatMap capitalize = ws.flatMap capitalize := by
  rw [List.flatMap_congr (capitalize_of_mem_words hws h), List.flatMap_id',
    (fused_map_capitalize hws h).flatten_eq, List.flatMap_def]

end capitalized

/-! ## Words in camel case -/

/-- The words of a text in camel case, one by one. -/
def camelWords : List (List Char) → List (List Char)
  | [] => []
  | first :: rest => lowerChars first :: rest.map capitalize

theorem camelChars_eq (cs : List Char) : camelChars cs = (camelWords (words cs)).flatten := by
  rw [camelChars]
  cases words cs with
  | nil => rfl
  | cons first rest =>
    rw [camelWords, List.flatten_cons, ← List.flatMap_def]

theorem fused_camelWords {ws : List (List Char)} (hws : ∀ w ∈ ws, Whole w)
    (h : ∀ w ∈ ws, ∀ c ∈ w, c.toNat < 128) : Fused (camelWords ws) (words (camelWords ws).flatten) := by
  cases ws with
  | nil => exact .nil
  | cons first rest =>
    rw [List.forall_mem_cons] at hws h
    apply fused_words_flatten
    · refine List.forall_mem_cons.2 ⟨whole_lowerChars hws.1, fun v hv => ?_⟩
      obtain ⟨w, hw, rfl⟩ := List.mem_map.1 hv
      exact whole_capitalize (hws.2 w hw) (h.2 w hw)
    · intro v hv
      obtain ⟨w, hw, rfl⟩ := List.mem_map.1 hv
      exact isLower_head?_capitalize (h.2 w hw)

theorem isAlphanum_of_mem_words {cs w : List Char} (h : IsIdentifier cs) (hw : w ∈ words cs) :
    ∀ c ∈ w, c.isAlphanum = true := by
  intro c hc
  obtain ⟨hmem, hsep⟩ := mem_of_mem_words hw hc
  exact (h c hmem).resolve_right (by rw [hsep]; exact Bool.false_ne_true)

theorem kind_toUpper {c : Char} (h : c.isAlphanum = true) : c.toUpper.isUpper = true ∨ c.toUpper.isDigit = true := by
  have hc : c.isAlphanum = true → c.toUpper.isUpper = true ∨ c.toUpper.isDigit = true :=
    of_ascii (InWord.of_isAlphanum h).ascii (by decide)
  exact hc h

theorem apart_flatMap_capitalize {w : List Char} {ws : List (List Char)} (hw : ∀ c ∈ w, c.isLower = true)
    (hws : ∀ v ∈ ws, ∀ c ∈ v, c.isAlphanum = true) : Apart w (ws.flatMap capitalize) := by
  intro a ha b hb
  have halower := hw a (List.mem_of_mem_getLast? ha)
  have hascii : ∀ v ∈ ws, ∀ c ∈ v, c.toNat < 128 := fun v hv c hc => (InWord.of_isAlphanum (hws v hv c hc)).ascii
  obtain ⟨v, hv, c, hc, rfl⟩ := exists_of_mem_head?_flatMap_capitalize hascii hb
  refine .inr (.inr ?_)
  rcases kind_toUpper (hws v hv c hc) with hupper | hdigit
  · simp [cutsBetween, halower, hupper]
  · simp [cutsBetween, hdigit, isDigit_of_isLower halower]

/-- Whole texts of letters and digits are numbers or words of letters. -/
theorem Whole.isDigit_or_isAlpha {w : List Char} (hw : Whole w) (h : ∀ c ∈ w, c.isAlphanum = true) :
    (∀ c ∈ w, c.isDigit = true) ∨ ∀ c ∈ w, c.isAlpha = true := by
  obtain ⟨digits, hdigits⟩ := hw.isDigit_eq
  cases digits with
  | true => exact .inl hdigits
  | false => exact .inr fun c hc => by simpa [Char.isAlphanum, hdigits c hc] using h c hc

theorem Whole.isDigit_append {cs ds : List Char} (h : Whole (cs ++ ds)) (hne : cs ≠ [])
    (hcs : ∀ c ∈ cs, c.isDigit = true) : ∀ c ∈ cs ++ ds, c.isDigit = true := by
  obtain ⟨digits, hall⟩ := h.isDigit_eq
  obtain ⟨a, cs, rfl⟩ := List.exists_cons_of_ne_nil hne
  have ha : a.isDigit = digits := hall a (List.mem_append_left ds List.mem_cons_self)
  rwa [← ha, hcs a List.mem_cons_self] at hall

theorem lowerChars_number {w : List Char} (h : ∀ c ∈ w, c.isDigit = true) : lowerChars w = w :=
  lowerAfter_eq_self fun c hc => by
    obtain ⟨hword, -, -, -, hlower⟩ := of_isDigit (h c hc)
    rw [lowerChar_of_ascii hword.ascii, hlower]

/-- A lowered word and capitalised ones in a row are in camel case. The lowered word ends where it did, unless it is a
number and what follows joins it. -/
theorem camelChars_lowerChars_append {first : List Char} {rest : List (List Char)}
    (hwhole : ∀ w ∈ first :: rest, Whole w) (h : ∀ w ∈ first :: rest, ∀ c ∈ w, c.isAlphanum = true) :
    camelChars (lowerChars first ++ rest.flatMap capitalize) = lowerChars first ++ rest.flatMap capitalize := by
  have hascii : ∀ w ∈ first :: rest, ∀ c ∈ w, c.toNat < 128 := fun w hw c hc =>
    (InWord.of_isAlphanum (h w hw c hc)).ascii
  rw [List.forall_mem_cons] at hwhole h hascii
  have hlower := whole_lowerChars hwhole.1
  have hself := flatMap_capitalize_words hwhole.2 hascii.2
  by_cases hapart : Apart (lowerChars first) (rest.flatMap capitalize)
  · rw [camelChars, words_append hapart, hlower.words_eq, List.singleton_append]
    simp only
    rw [lowerChars_lowerChars, hself]
  · have hdigits : ∀ c ∈ first, c.isDigit = true := by
      refine (hwhole.1.isDigit_or_isAlpha h.1).resolve_right fun hletters => hapart ?_
      rw [lowerChars_of_ascii hascii.1]
      exact apart_flatMap_capitalize (isLower_of_mem_map_toLower hletters) h.2
    rw [lowerChars_number hdigits] at hapart ⊢
    have hcapitals : ∀ a ∈ (rest.flatMap capitalize).head?, a.isLower = false := by
      intro a ha
      obtain ⟨w, hw, c, hc, rfl⟩ := exists_of_mem_head?_flatMap_capitalize hascii.2 ha
      exact (toUpper_of_ascii (hascii.2 w hw c hc)).2.2.1
    obtain ⟨hne, hwords⟩ := words_append_of_not_apart hwhole.1 hcapitals hapart
    obtain ⟨v, vs, hv⟩ := List.exists_cons_of_ne_nil hne
    rw [hv, List.modifyHead_cons] at hwords
    -- the first word is a number with whatever joins it
    have hjoined : ∀ c ∈ first ++ v, c.isDigit = true :=
      (whole_of_mem_words (hwords ▸ List.mem_cons_self)).isDigit_append hwhole.1.ne_nil hdigits
    have hcapital : vs.flatMap capitalize = vs.flatten := by
      rw [List.flatMap_congr fun w hw => capitalize_of_mem_words hwhole.2 hascii.2 w (hv ▸ List.mem_cons_of_mem v hw),
        List.flatMap_id']
    have hflat := (fused_map_capitalize hwhole.2 hascii.2).flatten_eq
    rw [hv, List.flatten_cons, ← List.flatMap_def] at hflat
    rw [camelChars, hwords]
    simp only
    rw [lowerChars_number hjoined, hcapital, List.append_assoc, hflat]

/-! ## Converting twice -/

theorem titleChars_titleChars {cs : List Char} (h : ∀ c ∈ cs, c.toNat < 128) :
    titleChars (titleChars cs) = titleChars cs :=
  flatMap_capitalize_words (fun _ hw => whole_of_mem_words hw) fun _ hw => ascii_of_mem_words h hw

theorem camelChars_camelChars {cs : List Char} (h : IsIdentifier cs) : camelChars (camelChars cs) = camelChars cs := by
  have hwhole : ∀ w ∈ words cs, Whole w := fun w hw => whole_of_mem_words hw
  have halphanum : ∀ w ∈ words cs, ∀ c ∈ w, c.isAlphanum = true := fun w hw => isAlphanum_of_mem_words h hw
  have hchars := camelChars_eq cs
  cases hcs : words cs with
  | nil =>
    rw [hcs] at hchars
    rw [hchars]
    rfl
  | cons first rest =>
    rw [hcs] at hwhole halphanum
    rw [hcs, camelWords, List.flatten_cons, ← List.flatMap_def] at hchars
    rw [hchars, camelChars_lowerChars_append hwhole halphanum]

/-- Converting an identifier to title case or to camel case a second time changes nothing, though its words may be
fused by then. -/
theorem titlecase_titlecase (s : String) (hs : IsIdentifier s.toList) :
    titlecase (titlecase s) = titlecase s ∧ camelcase (camelcase s) = camelcase s ∧
      Fused ((words s.toList).map capitalize) (words (titlecase s).toList) ∧
      Fused (camelWords (words s.toList)) (words (camelcase s).toList) := by
  have hwhole : ∀ w ∈ words s.toList, Whole w := fun w hw => whole_of_mem_words hw
  have hascii : ∀ w ∈ words s.toList, ∀ c ∈ w, c.toNat < 128 := fun w hw => ascii_of_mem_words hs.ascii hw
  have htitle : (titlecase s).toList = titleChars s.toList := String.toList_ofList
  have hcamel : (camelcase s).toList = camelChars s.toList := String.toList_ofList
  refine ⟨?_, ?_, ?_, ?_⟩
  · rw [titlecase, htitle, titleChars_titleChars hs.ascii, titlecase]
  · rw [camelcase, hcamel, camelChars_camelChars hs, camelcase]
  · rw [htitle]
    exact fused_map_capitalize hwhole hascii
  · rw [hcamel, camelChars_eq]
    exact fused_camelWords hwhole hascii

/-- Single letters look like an acronym when they stand in a row, and numbers like one number. -/
theorem titlecase_titlecase_fused :
    IsIdentifier "a_b_c_4_5".toList ∧ splitWords "a_b_c_4_5" = ["a", "b", "c", "4", "5"] ∧
      titlecase "a_b_c_4_5" = "ABC45" ∧ splitWords "ABC45" = ["ABC", "45"] ∧ titlecase "ABC45" = "ABC45" ∧
      camelcase "a_b_c_4_5" = "aBC45" ∧ splitWords "aBC45" = ["a", "BC", "45"] ∧ camelcase "aBC45" = "aBC45" := by
  have hs : IsIdentifier "a_b_c_4_5".toList := by decide
  have htitle : titlecase "a_b_c_4_5" = "ABC45" := by decide
  have hcamel : camelcase "a_b_c_4_5" = "aBC45" := by decide
  obtain ⟨htwice, hctwice, -, -⟩ := titlecase_titlecase "a_b_c_4_5" hs
  rw [htitle] at htwice
  rw [hcamel] at hctwice
  exact ⟨hs, by decide, htitle, by decide, htwice, hcamel, by decide, hctwice⟩

end Stencil.Text
