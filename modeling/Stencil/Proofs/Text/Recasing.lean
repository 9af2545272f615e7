import Stencil.Proofs.Text.PluralWords
import Stencil.Proofs.Text.Snakecase
/-!
# Phrases in other cases

A phrase can be written with a capital at the beginning of its words in the place of the underscores. Then the words
have to be told from the letters and digits alone. Two words in a row `Merge` if both are numbers, which leaves nothing
to tell them apart, or both are single letters, which looks like an acronym. A phrase can be got back from its title
case exactly if no two neighbours merge, and then also from camel case (`snakecase_titlecase_iff`).
-/

namespace Stencil.Text

/-! ## Words of a phrase -/

/-- A number, or a word of lower-case letters. -/
structure PhraseWord (w : List Char) : Prop where
  ne_nil : w ≠ []
  kind : (∀ c ∈ w, c.isDigit = true) ∨ ∀ c ∈ w, c.isLower = true

-- by the characters of the word, and not by all that there are
instance (w : List Char) : Decidable (PhraseWord w) :=
  decidable_of_iff (w ≠ [] ∧ (w.all Char.isDigit = true ∨ w.all Char.isLower = true)) <| by
    simp only [List.all_eq_true]
    exact ⟨fun ⟨hne, hkind⟩ => ⟨hne, hkind⟩, fun ⟨hne, hkind⟩ => ⟨hne, hkind⟩⟩

/-- Two words that nobody can tell apart when they stand in a row: two numbers or two single letters. -/
def Merge (v w : List Char) : Prop :=
  (∀ c ∈ v ++ w, c.isDigit = true) ∨ (v.length = 1 ∧ w.length = 1 ∧ ∀ c ∈ v ++ w, c.isLower = true)

instance (v w : List Char) : Decidable (Merge v w) :=
  decidable_of_iff ((v ++ w).all Char.isDigit = true ∨
    (v.length = 1 ∧ w.length = 1 ∧ (v ++ w).all Char.isLower = true)) (by simp only [Merge, List.all_eq_true])

theorem toUpper_of_isLower {c : Char} (h : c.isLower = true) :
    c.toUpper.isUpper = true ∧ c.toUpper.toNat < 128 ∧ c.toUpper.toLower = c := by
  have hc : c.isLower = true → c.toUpper.isUpper = true ∧ c.toUpper.toNat < 128 ∧ c.toUpper.toLower = c :=
    of_ascii (ascii_of_isLower h) (by decide)
  exact hc h

theorem of_isDigit {c : Char} (h : c.isDigit = true) :
    InWord c ∧ c.isUpper = false ∧ c.isLower = false ∧ c.toUpper = c ∧ c.toLower = c := by
  have hword : InWord c := .of_isAlphanum (by rw [Char.isAlphanum, h, Bool.or_true])
  have hc : c.isDigit = true → c.isUpper = false ∧ c.isLower = false ∧ c.toUpper = c ∧ c.toLower = c :=
    of_ascii hword.ascii (by decide)
  exact ⟨hword, hc h⟩

theorem PhraseWord.ascii {w : List Char} (h : PhraseWord w) : ∀ c ∈ w, c.toNat < 128 := by
  rcases h.kind with hw | hw
  · exact fun c hc => (of_isDigit (hw c hc)).1.ascii
  · exact fun c hc => ascii_of_isLower (hw c hc)

theorem capitalize_cons {c : Char} (hc : c.toNat < 128) (cs : List Char) :
    capitalize (c :: cs) = c.toUpper :: cs := by
  rw [capitalize, upperChar_of_ascii hc, List.singleton_append]

/-! ## A word in its spellings -/

/-- A text in ASCII that is one word, and the given one in lower case. -/
structure Respells (x w : List Char) : Prop where
  whole : Whole x
  ascii : ∀ c ∈ x, c.toNat < 128
  lowered : lowerChars x = w

theorem respells_number {w : List Char} (hne : w ≠ []) (h : ∀ c ∈ w, c.isDigit = true) : Respells w w := by
  have hascii : ∀ c ∈ w, c.toNat < 128 := fun c hc => (of_isDigit (h c hc)).1.ascii
  refine ⟨whole_of_no_upper hne ?_ ?_ h, hascii, ?_⟩
  · exact fun c hc => (of_isDigit (h c hc)).1.no_separator
  · exact fun c hc => (of_isDigit (h c hc)).2.1
  · rw [lowerChars_of_ascii hascii, List.map_congr_left fun c hc => (of_isDigit (h c hc)).2.2.2.2, List.map_id']

/-- A letter and lower-case letters behind it respell the word that has the letter in lower case as well. -/
theorem respells_letters {c : Char} {low : List Char} (hc : c.isAlpha = true) (hlow : ∀ d ∈ low, d.isLower = true) :
    Respells (c :: low) (c.toLower :: low) := by
  have hcword : InWord c := .of_isAlpha hc
  have hascii : ∀ d ∈ c :: low, d.toNat < 128 :=
    List.forall_mem_cons.2 ⟨hcword.ascii, fun d hd => ascii_of_isLower (hlow d hd)⟩
  refine ⟨whole_of_lower hc hlow, hascii, ?_⟩
  rw [lowerChars_of_ascii hascii, List.map_cons, map_toLower_of_isLower hlow]

/-- A word of a phrase is spelled by itself and with a capital. -/
theorem PhraseWord.respells {w : List Char} (h : PhraseWord w) : Respells w w ∧ Respells (capitalize w) w := by
  obtain ⟨c, low, rfl⟩ := List.exists_cons_of_ne_nil h.ne_nil
  rw [capitalize_cons (h.ascii c List.mem_cons_self)]
  rcases h.kind with hw | hw
  · rw [(of_isDigit (hw c List.mem_cons_self)).2.2.2.1]
    exact ⟨respells_number h.ne_nil hw, respells_number h.ne_nil hw⟩
  · rw [List.forall_mem_cons] at hw
    obtain ⟨hupper, -, hlower⟩ := toUpper_of_isLower hw.1
    have hself := respells_letters (isAlpha_iff.2 (.inr hw.1)) hw.2
    have hcapital := respells_letters (isAlpha_iff.2 (.inl hupper)) hw.2
    rw [toLower_of_isLower hw.1] at hself
    rw [hlower] at hcapital
    exact ⟨hself, hcapital⟩

/-! ## Neighbours -/

section neighbours

variable {init ds : List Char} {a b : Char}

theorem apart_concat_cons : Apart (init ++ [a]) (b :: ds) ↔
    isSeparator a = true ∨ isSeparator b = true ∨ cutsBetween a b ds.head? = true := by
  simp [Apart]

theorem apart_of_isDigit_ne (h : a.isDigit ≠ b.isDigit) : Apart (init ++ [a]) (b :: ds) :=
  apart_concat_cons.2 (.inr (.inr (by simp [cutsBetween, h])))

theorem apart_of_lower_upper (ha : a.isLower = true) (hb : b.isUpper = true) : Apart (init ++ [a]) (b :: ds) :=
  apart_concat_cons.2 (.inr (.inr (by simp [cutsBetween, ha, hb])))

/-- A capital begins a word behind another one if it is followed by a lower-case letter. -/
theorem apart_capitals_iff (ha : a.isUpper = true) (hb : b.isUpper = true) :
    Apart [a] (b :: ds) ↔ ds.head?.any Char.isLower = true := by
  rw [apart_singleton_cons]
  simp [cutsBetween, ha, hb, isLower_of_isUpper ha, isDigit_of_isUpper ha, isDigit_of_isUpper hb,
    isSeparator_of_letter (.inl ha), isSeparator_of_letter (.inl hb)]

theorem not_apart_digits (ha : a.isDigit = true) (hb : b.isDigit = true) : ¬ Apart (init ++ [a]) (b :: ds) := by
  obtain ⟨haword, haupper, halower, -⟩ := of_isDigit ha
  obtain ⟨hbword, hbupper, hblower, -⟩ := of_isDigit hb
  rw [apart_concat_cons]
  simp [cutsBetween, ha, hb, haword.no_separator, hbword.no_separator, haupper, halower]

end neighbours

/-- A word is apart from the capitalised one behind it unless both are numbers. -/
theorem apart_capitalize {v w : List Char} (hv : PhraseWord v) (hw : PhraseWord w)
    (h : ¬ ∀ c ∈ v ++ w, c.isDigit = true) : Apart v (capitalize w) := by
  obtain ⟨init, a, rfl⟩ := (List.eq_nil_or_concat' v).resolve_left hv.ne_nil
  obtain ⟨b, ds, rfl⟩ := List.exists_cons_of_ne_nil hw.ne_nil
  rw [capitalize_cons (hw.ascii b List.mem_cons_self)]
  rcases hv.kind with hv | hv
  · have ha := hv a (by simp)
    rcases hw.kind with hw | hw
    · exact absurd (List.forall_mem_append.2 ⟨hv, hw⟩) h
    · have hb := (toUpper_of_isLower (hw b List.mem_cons_self)).1
      exact apart_of_isDigit_ne (by rw [ha, isDigit_of_isUpper hb]; decide)
  · have ha := hv a (by simp)
    rcases hw.kind with hw | hw
    · have hb := hw b List.mem_cons_self
      exact apart_of_isDigit_ne (by rw [isDigit_of_isLower ha, (of_isDigit hb).2.2.2.1, hb]; decide)
    · exact apart_of_lower_upper ha (toUpper_of_isLower (hw b List.mem_cons_self)).1

theorem capitalize_number {w : List Char} (h : ∀ c ∈ w, c.isDigit = true) : capitalize w = w := by
  cases w with
  | nil => rfl
  | cons c w =>
    obtain ⟨hword, -, -, hupper, -⟩ := of_isDigit (h c List.mem_cons_self)
    rw [capitalize_cons hword.ascii, hupper]

/-- Words that merge stay together when they are capitalised. -/
theorem not_apart_capitalize {v w : List Char} (hv : v ≠ []) (hw : w ≠ []) (h : Merge v w) :
    ¬ Apart (capitalize v) (capitalize w) := by
  rcases h with hdigits | ⟨hv1, hw1, hlower⟩
  · rw [List.forall_mem_append] at hdigits
    obtain ⟨init, a, rfl⟩ := (List.eq_nil_or_concat' v).resolve_left hv
    obtain ⟨b, ds, rfl⟩ := List.exists_cons_of_ne_nil hw
    rw [capitalize_number hdigits.1, capitalize_number hdigits.2]
    exact not_apart_digits (hdigits.1 a (by simp)) (hdigits.2 b List.mem_cons_self)
  · obtain ⟨a, rfl⟩ := List.length_eq_one_iff.1 hv1
    obtain ⟨b, rfl⟩ := List.length_eq_one_iff.1 hw1
    have ha : a.isLower = true := hlower a (by simp)
    have hb : b.isLower = true := hlower b (by simp)
    rw [capitalize_cons (ascii_of_isLower ha), capitalize_cons (ascii_of_isLower hb),
      apart_capitals_iff (toUpper_of_isLower ha).1 (toUpper_of_isLower hb).1]
    simp

/-- Of capitalised words the first is apart from the second exactly if the two do not merge. -/
theorem apart_capitalize_capitalize_iff {v w : List Char} (hv : PhraseWord v) (hw : PhraseWord w) :
    Apart (capitalize v) (capitalize w) ↔ ¬ Merge v w := by
  refine ⟨fun hapart hmerge => not_apart_capitalize hv.ne_nil hw.ne_nil hmerge hapart, fun hmerge => ?_⟩
  rw [Merge, not_or] at hmerge
  have hself := apart_capitalize hv hw hmerge.1
  obtain ⟨a, low, rfl⟩ := List.exists_cons_of_ne_nil hv.ne_nil
  rw [capitalize_cons (hv.ascii a List.mem_cons_self)]
  cases low with
  | cons d low => exact apart_cons_cons.2 (apart_cons_cons.1 hself)
  | nil =>
    -- the capital is the end of the word too
    rcases hv.kind with hdigit | hlower
    · rwa [(of_isDigit (hdigit a List.mem_cons_self)).2.2.2.1]
    · have ha := (toUpper_of_isLower (hlower a List.mem_cons_self)).1
      obtain ⟨b, ds, rfl⟩ := List.exists_cons_of_ne_nil hw.ne_nil
      rw [capitalize_cons (hw.ascii b List.mem_cons_self)]
      rcases hw.kind with hdigit | hlower'
      · have hb := hdigit b List.mem_cons_self
        rw [(of_isDigit hb).2.2.2.1]
        have hchange : a.toUpper.isDigit ≠ b.isDigit := by
          rw [isDigit_of_isUpper ha, hb]
          decide
        exact apart_singleton_cons.2 (.inr (.inr (by simp [cutsBetween, hchange])))
      · have hb := (toUpper_of_isLower (hlower' b List.mem_cons_self)).1
        rw [apart_capitals_iff ha hb]
        cases ds with
        | nil => exact absurd ⟨rfl, rfl, List.forall_mem_append.2 ⟨hlower, hlower'⟩⟩ hmerge.2
        | cons e ds => exact hlower' e (by simp)

/-! ## Phrases -/

theorem of_respells {xs ws : List (List Char)} (h : List.Forall₂ Respells xs ws) :
    (∀ x ∈ xs, Whole x) ∧ (∀ x ∈ xs, ∀ c ∈ x, c.toNat < 128) ∧ xs.map lowerChars = ws := by
  induction h with
  | nil => simp
  | cons hx _ ih =>
    obtain ⟨hwhole, hascii, hlowered⟩ := ih
    exact ⟨List.forall_mem_cons.2 ⟨hx.whole, hwhole⟩, List.forall_mem_cons.2 ⟨hx.ascii, hascii⟩, by
      rw [List.map_cons, hx.lowered, hlowered]⟩

/-- Texts in a row that have the same phrase word by word are its words. -/
theorem words_eq_of_lowered {xs : List (List Char)} (hwhole : ∀ x ∈ xs, Whole x)
    (hascii : ∀ x ∈ xs, ∀ c ∈ x, c.toNat < 128) (h : (words xs.flatten).map lowerChars = xs.map lowerChars) :
    words xs.flatten = xs := by
  have hflat : (words xs.flatten).flatten = xs.flatten := by
    apply flatten_words_of_no_separator
    intro c hc
    obtain ⟨x, hx, hc⟩ := List.mem_flatten.1 hc
    exact (hwhole x hx).no_separator c hc
  have hwords : ∀ w ∈ words xs.flatten, ∀ c ∈ w, c.toNat < 128 := by
    intro w hw c hc
    have hmem : c ∈ xs.flatten := hflat ▸ List.mem_flatten.2 ⟨w, hw, hc⟩
    obtain ⟨x, hx, hc⟩ := List.mem_flatten.1 hmem
    exact hascii x hx c hc
  -- lowering keeps the length of a text in ASCII
  have hlength : ∀ ws : List (List Char), (∀ w ∈ ws, ∀ c ∈ w, c.toNat < 128) →
      ws.map List.length = (ws.map lowerChars).map List.length := by
    intro ws hws
    rw [List.map_map]
    exact List.map_congr_left fun w hw => by simp [lowerChars_of_ascii (hws w hw)]
  rw [List.eq_iff_flatten_eq, hlength _ hwords, h, ← hlength xs hascii]
  exact ⟨hflat, rfl⟩

/-- Spellings of the words of a phrase, in a row, have that phrase exactly if each is apart from the next one. -/
theorem snakeChars_flatten_iff {xs ws : List (List Char)} (h : List.Forall₂ Respells xs ws) :
    snakeChars xs.flatten = ['_'].intercalate ws ↔ xs.IsChain Apart := by
  obtain ⟨hwhole, hascii, rfl⟩ := of_respells h
  rw [← words_flatten_iff hwhole]
  constructor
  · intro hphrase
    apply words_eq_of_lowered hwhole hascii
    rw [← words_snakeChars, hphrase, words_intercalate]
    intro w hw
    obtain ⟨x, hx, rfl⟩ := List.mem_map.1 hw
    exact whole_lowerChars (hwhole x hx)
  · intro hwords
    rw [snakeChars_eq_intercalate, hwords]

section phrase

variable {w : List Char} {ws : List (List Char)}

theorem titleChars_intercalate (h : ∀ v ∈ ws, PhraseWord v) :
    titleChars (['_'].intercalate ws) = (ws.map capitalize).flatten := by
  rw [titleChars, words_intercalate fun v hv => (h v hv).respells.1.whole, List.flatMap_def]

theorem camelChars_intercalate (h : ∀ v ∈ w :: ws, PhraseWord v) :
    camelChars (['_'].intercalate (w :: ws)) = (w :: ws.map capitalize).flatten := by
  rw [camelChars, words_intercalate fun v hv => (h v hv).respells.1.whole]
  simp only
  rw [(h w List.mem_cons_self).respells.1.lowered, List.flatMap_def, List.flatten_cons]

theorem respells_map_capitalize (h : ∀ v ∈ ws, PhraseWord v) : List.Forall₂ Respells (ws.map capitalize) ws := by
  rw [List.forall₂_map_left_iff, List.forall₂_same]
  exact fun v hv => (h v hv).respells.2

theorem isChain_map_capitalize_iff (h : ∀ v ∈ ws, PhraseWord v) :
    (ws.map capitalize).IsChain Apart ↔ ws.IsChain fun u v => ¬ Merge u v := by
  rw [List.isChain_map]
  exact List.IsChain.iff_of_mem_imp fun u v hu hv => apart_capitalize_capitalize_iff (h u hu) (h v hv)

/-- In title case the words of a phrase can be told apart exactly if no neighbours merge. -/
theorem snakeChars_titleChars_iff (h : ∀ v ∈ ws, PhraseWord v) :
    snakeChars (titleChars (['_'].intercalate ws)) = ['_'].intercalate ws ↔ ws.IsChain fun u v => ¬ Merge u v := by
  rw [titleChars_intercalate h, snakeChars_flatten_iff (respells_map_capitalize h), isChain_map_capitalize_iff h]

theorem snakeChars_camelChars (h : ∀ v ∈ ws, PhraseWord v) (hws : ws.IsChain fun u v => ¬ Merge u v) :
    snakeChars (camelChars (['_'].intercalate ws)) = ['_'].intercalate ws := by
  cases ws with
  | nil => rfl
  | cons w ws =>
    have hrest : ∀ v ∈ ws, PhraseWord v := fun v hv => h v (List.mem_cons_of_mem w hv)
    have hfirst := (h w List.mem_cons_self).respells.1
    rw [camelChars_intercalate h, snakeChars_flatten_iff (.cons hfirst (respells_map_capitalize hrest)),
      List.isChain_cons]
    rw [List.isChain_cons] at hws
    refine ⟨?_, (isChain_map_capitalize_iff hrest).2 hws.2⟩
    -- the first word has no capital, and a single letter is as good as a longer word
    intro x hx
    rw [List.head?_map, Option.mem_def, Option.map_eq_some_iff] at hx
    obtain ⟨v, hv, rfl⟩ := hx
    exact apart_capitalize (h w List.mem_cons_self) (hrest v (List.mem_of_mem_head? hv))
      fun hdigits => hws.1 v hv (.inl hdigits)

end phrase

/-- A phrase in ASCII is the phrase of its title case exactly if no two words next to each other are numbers or single
letters, and then it is the phrase of its camel case. -/
theorem snakecase_titlecase_iff (ws : List String) (hws : ∀ w ∈ ws, PhraseWord w.toList) :
    (snakecase (titlecase ("_".intercalate ws)) = "_".intercalate ws ↔
        ws.IsChain fun v w => ¬ Merge v.toList w.toList) ∧
      ((ws.IsChain fun v w => ¬ Merge v.toList w.toList) →
        snakecase (camelcase ("_".intercalate ws)) = "_".intercalate ws) := by
  have hphrase : ("_".intercalate ws).toList = ['_'].intercalate (ws.map String.toList) := by
    simp [String.toList_intercalate]
  have hwords : ∀ w ∈ ws.map String.toList, PhraseWord w := by simpa using hws
  have hchain : (ws.map String.toList).IsChain (fun v w => ¬ Merge v w) ↔
      ws.IsChain fun v w => ¬ Merge v.toList w.toList := List.isChain_map String.toList
  rw [← hchain, ← String.toList_inj, ← String.toList_inj, snakecase, snakecase, titlecase, camelcase]
  simp only [String.toList_ofList]
  rw [hphrase]
  exact ⟨snakeChars_titleChars_iff hwords, snakeChars_camelChars hwords⟩

/-- Numbers and single letters, none of them next to another of its kind. -/
theorem snakecase_titlecase_numbers :
    (∀ w ∈ ["a", "big", "4", "x", "2", "go", "b"], PhraseWord w.toList) ∧
      (["a", "big", "4", "x", "2", "go", "b"].IsChain fun v w => ¬ Merge v.toList w.toList) ∧
      snakecase (titlecase "a_big_4_x_2_go_b") = "a_big_4_x_2_go_b" ∧
      snakecase (camelcase "a_big_4_x_2_go_b") = "a_big_4_x_2_go_b" := by
  have hws : ∀ w ∈ ["a", "big", "4", "x", "2", "go", "b"], PhraseWord w.toList := by decide
  have hchain : ["a", "big", "4", "x", "2", "go", "b"].IsChain fun v w => ¬ Merge v.toList w.toList := by decide
  obtain ⟨htitle, hcamel⟩ := snakecase_titlecase_iff _ hws
  exact ⟨hws, hchain, htitle.2 hchain, hcamel hchain⟩

end Stencil.Text
