import Mathlib.Data.List.Chain
import Stencil.Proofs.Text.Seams
/-!
# Words that stay whole

A word of a text is `Whole`: there is no separator in it and no place where a word ends, and that can be seen of the
word alone, whatever stood around it. So segmenting it again gives it back (`splitWords_of_mem`).

Conversely, what a text was put together from can be found in it again. Whole texts in a row are its words exactly if
each is apart from the next one (`words_flatten_iff`), and with underscores between them they always are
(`words_intercalate`).

Of letters alone there are two kinds of words: in capitals throughout, and with one capital at most, in front
(`Whole.isAcronym_or`).
-/

namespace Stencil.Text

/-- A text that is one word: it has no separator in it, and no character is apart from what follows. -/
inductive Whole : List Char → Prop
  | single {a : Char} (ha : isSeparator a = false) : Whole [a]
  | cons {a : Char} {cs : List Char} (ha : ¬ Apart [a] cs) (hcs : Whole cs) : Whole (a :: cs)

theorem Whole.ne_nil {w : List Char} (h : Whole w) : w ≠ [] := by
  cases h <;> exact List.cons_ne_nil _ _

theorem Whole.words_eq {w : List Char} (h : Whole w) : words w = [w] := by
  induction h with
  | single ha => rw [words_cons_of_apart ha (apart_nil_right _), words_nil]
  | cons ha _ ih =>
    rw [(words_cons_of_not_apart ha).2, ih]
    rfl

/-! ## The words of a text -/

theorem not_apart_iff {a b : Char} {cs : List Char} : ¬ Apart [a] (b :: cs) ↔
    isSeparator a = false ∧ isSeparator b = false ∧ cutsBetween a b cs.head? = false := by
  rw [apart_singleton_cons, not_or, not_or, Bool.not_eq_true, Bool.not_eq_true, Bool.not_eq_true]

/-- What is apart from a text is so from its beginning alone, if nobody sees further. -/
theorem apart_append_iff {cs v more : List Char} (hv : v ≠ []) (h : Apart v more) :
    Apart cs (v ++ more) ↔ Apart cs v := by
  obtain ⟨b, v, rfl⟩ := List.exists_cons_of_ne_nil hv
  simp only [Apart, List.cons_append, List.head?_cons, List.tail_cons, Option.mem_some_iff, forall_eq',
    cutsBetween_append h]

/-- Where no separator stands in front, the first word does, and it is whole and apart from the rest. -/
theorem exists_first_word {b : Char} (hb : isSeparator b = false) (cs : List Char) :
    ∃ w rest, b :: cs = w ++ rest ∧ Whole w ∧ Apart w rest ∧ words (b :: cs) = w :: words rest := by
  induction cs generalizing b with
  | nil => exact ⟨[b], [], rfl, .single hb, apart_nil_right _, (Whole.single hb).words_eq⟩
  | cons c cs ih =>
    by_cases h : Apart [b] (c :: cs)
    · exact ⟨[b], c :: cs, rfl, .single hb, h, words_cons_of_apart hb h⟩
    · obtain ⟨w, rest, hsplit, hwhole, hapart, hwords⟩ := ih (not_apart_iff.1 h).2.1
      have hjoined : ¬ Apart [b] w := by rwa [hsplit, apart_append_iff hwhole.ne_nil hapart] at h
      refine ⟨b :: w, rest, by rw [hsplit, List.cons_append], .cons hjoined hwhole, ?_, ?_⟩
      · obtain ⟨d, w, rfl⟩ := List.exists_cons_of_ne_nil hwhole.ne_nil
        exact apart_cons_cons.2 hapart
      · rw [(words_cons_of_not_apart h).2, hwords]
        rfl

/-- Where no separator stands at the end, the last word does. -/
theorem exists_last_word {cs : List Char} (hlast : ∃ z ∈ cs.getLast?, isSeparator z = false) :
    ∃ g w, cs = g ++ w ∧ Whole w ∧ Apart g w := by
  induction cs with
  | nil => simp at hlast
  | cons a cs ih =>
    cases cs with
    | nil => exact ⟨[], [a], rfl, .single (by simpa using hlast), apart_nil_left _⟩
    | cons b cs =>
      rw [List.getLast?_cons_cons] at hlast
      obtain ⟨g, w, hsplit, hwhole, hapart⟩ := ih hlast
      cases g with
      | cons x g => exact ⟨a :: x :: g, w, by rw [hsplit]; rfl, hwhole, apart_cons_cons.2 hapart⟩
      | nil =>
        rw [List.nil_append] at hsplit
        by_cases h : Apart [a] w
        · exact ⟨[a], w, by rw [hsplit]; rfl, hwhole, h⟩
        · exact ⟨[], a :: w, by rw [hsplit]; rfl, .cons h hwhole, apart_nil_left _⟩

/-- A word can be told to be one without the text that it is from. -/
theorem whole_of_mem_words {cs w : List Char} (hw : w ∈ words cs) : Whole w := by
  induction cs generalizing w with
  | nil => cases hw
  | cons a cs ih =>
    cases ha : isSeparator a with
    | true =>
      rw [words_cons_of_separator ha] at hw
      exact ih hw
    | false =>
      obtain ⟨x, rest, -, hwhole, -, hwords⟩ := exists_first_word ha cs
      by_cases h : Apart [a] cs
      · rw [words_cons_of_apart ha h] at hw
        rcases List.mem_cons.1 hw with rfl | hw
        · exact .single ha
        · exact ih hw
      · obtain ⟨hne, hmodify⟩ := words_cons_of_not_apart h
        obtain ⟨y, ys, hys⟩ := List.exists_cons_of_ne_nil hne
        -- only the first word has changed, and that one is known to be whole
        have htail : words rest = ys := by
          rw [hmodify, hys, List.modifyHead_cons] at hwords
          exact (List.cons.inj hwords).2.symm
        rw [hwords, htail] at hw
        rcases List.mem_cons.1 hw with rfl | hw
        · exact hwhole
        · exact ih (hys ▸ List.mem_cons_of_mem y hw)

theorem words_eq_singleton_iff {w : List Char} : words w = [w] ↔ Whole w :=
  ⟨fun h => whole_of_mem_words (h ▸ List.mem_singleton_self w), Whole.words_eq⟩

theorem Whole.no_separator {w : List Char} (h : Whole w) : ∀ c ∈ w, isSeparator c = false :=
  fun _ hc => (mem_of_mem_words (words_eq_singleton_iff.2 h ▸ List.mem_singleton_self w) hc).2

theorem flatten_words_of_no_separator {cs : List Char} (h : ∀ c ∈ cs, isSeparator c = false) :
    (words cs).flatten = cs := by
  rw [flatten_words, List.filter_eq_self]
  exact fun c hc => by rw [h c hc]; rfl

/-- A text without separators has a word, and no other exactly if it is whole. -/
theorem length_words_of_no_separator {cs : List Char} (hne : cs ≠ []) (h : ∀ c ∈ cs, isSeparator c = false) :
    1 ≤ (words cs).length ∧ ((words cs).length = 1 ↔ Whole cs) := by
  have hflat := flatten_words_of_no_separator h
  refine ⟨?_, fun hlength => ?_, fun hwhole => by rw [hwhole.words_eq, List.length_singleton]⟩
  · rw [Nat.one_le_iff_ne_zero, Ne, List.length_eq_zero_iff]
    intro hnil
    rw [hnil] at hflat
    exact hne hflat.symm
  · obtain ⟨w, hw⟩ := List.length_eq_one_iff.1 hlength
    rw [hw, List.flatten_singleton] at hflat
    exact words_eq_singleton_iff.1 (hflat ▸ hw)

/-- A word has digits only or no digit. -/
theorem Whole.isDigit_eq {w : List Char} (h : Whole w) : ∃ digits : Bool, ∀ c ∈ w, c.isDigit = digits := by
  induction h with
  | @single a _ => exact ⟨a.isDigit, by simp⟩
  | @cons a cs ha hcs ih =>
    obtain ⟨digits, hdigits⟩ := ih
    obtain ⟨b, cs, rfl⟩ := List.exists_cons_of_ne_nil hcs.ne_nil
    refine ⟨digits, List.forall_mem_cons.2 ⟨?_, hdigits⟩⟩
    have hcut := (not_apart_iff.1 ha).2.2
    simp only [cutsBetween, Bool.or_eq_false_iff, bne_eq_false_iff_eq] at hcut
    rw [hcut.2, hdigits b List.mem_cons_self]

/-- Without capitals there is nothing but digits to tell words apart. -/
theorem whole_of_no_upper {w : List Char} (hne : w ≠ []) (hsep : ∀ c ∈ w, isSeparator c = false)
    (hupper : ∀ c ∈ w, c.isUpper = false) {digits : Bool} (hdigits : ∀ c ∈ w, c.isDigit = digits) : Whole w := by
  induction w with
  | nil => exact absurd rfl hne
  | cons a w ih =>
    rw [List.forall_mem_cons] at hsep hupper hdigits
    cases w with
    | nil => exact .single hsep.1
    | cons b w =>
      refine .cons (not_apart_iff.2 ⟨hsep.1, hsep.2 b List.mem_cons_self, ?_⟩)
        (ih (List.cons_ne_nil b w) hsep.2 hupper.2 hdigits.2)
      have hb := hupper.2 b List.mem_cons_self
      simp [cutsBetween, hb, hdigits.1, hdigits.2 b List.mem_cons_self]

/-- Segmenting a word of a text again gives the word: there is nothing in it to cut at. -/
theorem splitWords_of_mem (s w : String) (hw : w ∈ splitWords s) : Whole w.toList ∧ splitWords w = [w] := by
  obtain ⟨cs, hcs, rfl⟩ := List.mem_map.1 hw
  have hwhole := whole_of_mem_words hcs
  rw [String.toList_ofList, splitWords, String.toList_ofList, hwhole.words_eq]
  exact ⟨hwhole, rfl⟩

/-- The end of an acronym that was cut off from the word behind it. -/
theorem splitWords_of_mem_acronym :
    "HTTP" ∈ splitWords "myHTTPServer4_go" ∧ Whole "HTTP".toList ∧ splitWords "HTTP" = ["HTTP"] := by
  have hw : "HTTP" ∈ splitWords "myHTTPServer4_go" := by decide
  exact ⟨hw, splitWords_of_mem "myHTTPServer4_go" "HTTP" hw⟩

/-! ## Texts put together from words -/

/-- To be apart from texts in a row is to be apart from the first one. -/
theorem apart_flatten_iff {w : List Char} {ws : List (List Char)} (hne : ∀ v ∈ ws, v ≠ []) (hws : ws.IsChain Apart) :
    Apart w ws.flatten ↔ ∀ v ∈ ws.head?, Apart w v := by
  induction ws generalizing w with
  | nil => simp [apart_nil_right]
  | cons v vs ih =>
    rw [List.forall_mem_cons] at hne
    rw [List.isChain_cons] at hws
    have hrest : Apart v vs.flatten := (ih hne.2 hws.2).2 hws.1
    rw [List.flatten_cons, apart_append_iff hne.1 hrest]
    simp

/-- Whole texts in a row are the words exactly if each is apart from the next one. -/
theorem words_flatten_iff {ws : List (List Char)} (h : ∀ w ∈ ws, Whole w) :
    words ws.flatten = ws ↔ ws.IsChain Apart := by
  induction ws with
  | nil => simp [words_nil]
  | cons w ws ih =>
    rw [List.forall_mem_cons] at h
    obtain ⟨hw, hws⟩ := h
    have hne : ∀ v ∈ ws, v ≠ [] := fun v hv => (hws v hv).ne_nil
    rw [List.isChain_cons, List.flatten_cons]
    constructor
    · intro hwords
      obtain ⟨b, low, rfl⟩ := List.exists_cons_of_ne_nil hw.ne_nil
      obtain ⟨x, rest, hsplit, -, hapart, hfirst⟩ :=
        exists_first_word (hw.no_separator b List.mem_cons_self) (low ++ ws.flatten)
      rw [← List.cons_append] at hsplit hfirst
      obtain ⟨rfl, hrest⟩ := List.cons.inj (hfirst.symm.trans hwords)
      obtain rfl : ws.flatten = rest := List.append_cancel_left hsplit
      have hchain := (ih hws).1 hrest
      exact ⟨(apart_flatten_iff hne hchain).1 hapart, hchain⟩
    · rintro ⟨hfirst, hchain⟩
      rw [words_append ((apart_flatten_iff hne hchain).2 hfirst), hw.words_eq, (ih hws).2 hchain, List.singleton_append]

theorem apart_cons_of_separator {b : Char} (hb : isSeparator b = true) (cs ds : List Char) : Apart cs (b :: ds) := by
  rintro a - c hc
  obtain rfl := Option.some.inj hc
  exact .inr (.inl hb)

/-- Whole texts with underscores between them are the words. -/
theorem words_intercalate {ws : List (List Char)} (h : ∀ w ∈ ws, Whole w) : words (['_'].intercalate ws) = ws := by
  induction ws with
  | nil => rfl
  | cons w ws ih =>
    rw [List.forall_mem_cons] at h
    cases ws with
    | nil => rw [List.intercalate_singleton, h.1.words_eq]
    | cons v vs =>
      have hunderscore : isSeparator '_' = true := rfl
      rw [List.intercalate_cons_cons, List.append_assoc, List.singleton_append,
        words_append (apart_cons_of_separator hunderscore _ _), h.1.words_eq, words_cons_of_separator hunderscore,
        ih h.2, List.singleton_append]

/-! ## Words of letters -/

/-- A letter and lower-case letters behind it are one word. -/
theorem whole_of_lower {c : Char} {low : List Char} (hc : c.isAlpha = true) (hlow : ∀ d ∈ low, d.isLower = true) :
    Whole (c :: low) := by
  have hsep := isSeparator_of_letter (isAlpha_iff.1 hc)
  induction low generalizing c with
  | nil => exact .single hsep
  | cons d low ih =>
    rw [List.forall_mem_cons] at hlow
    obtain ⟨hd, hlow⟩ := hlow
    have hdletter : d.isAlpha = true := isAlpha_iff.2 (.inr hd)
    have hdsep := isSeparator_of_letter (.inr hd)
    refine .cons (not_apart_iff.2 ⟨hsep, hdsep, ?_⟩) (ih hdletter hlow hdsep)
    simp [cutsBetween, isUpper_of_isLower hd, isDigit_of_isLower hd, isDigit_of_isAlpha hc]

theorem whole_of_upper {w : List Char} (hne : w ≠ []) (h : ∀ c ∈ w, c.isUpper = true) : Whole w := by
  induction w with
  | nil => exact absurd rfl hne
  | cons a w ih =>
    rw [List.forall_mem_cons] at h
    have hsep := isSeparator_of_letter (.inl h.1)
    cases w with
    | nil => exact .single hsep
    | cons b w =>
      have hb := h.2 b List.mem_cons_self
      have hnext : w.head?.any Char.isLower = false := by
        cases w with
        | nil => rfl
        | cons c w => exact isLower_of_isUpper (h.2 c (by simp))
      refine .cons (not_apart_iff.2 ⟨hsep, isSeparator_of_letter (.inl hb), ?_⟩) (ih (List.cons_ne_nil b w) h.2)
      simp [cutsBetween, isLower_of_isUpper h.1, hnext, isDigit_of_isUpper h.1, isDigit_of_isUpper hb]

/-- Two capitals or more. -/
def IsAcronym (w : List Char) : Prop := 2 ≤ w.length ∧ ∀ c ∈ w, c.isUpper = true

-- by the characters of the word, and not by all that there are
instance (w : List Char) : Decidable (IsAcronym w) :=
  decidable_of_iff (2 ≤ w.length ∧ w.all Char.isUpper = true) (by simp only [IsAcronym, List.all_eq_true])

/-- A capital within a word has a capital in front of it and no lower-case letter behind it. -/
theorem upper_of_not_apart {a b : Char} {cs : List Char} (h : ¬ Apart [a] (b :: cs)) (ha : a.isAlpha = true)
    (hb : b.isUpper = true) : a.isUpper = true ∧ cs.head?.any Char.isLower = false := by
  have hcut := (not_apart_iff.1 h).2.2
  simp only [cutsBetween, hb, Bool.and_true, Bool.or_eq_false_iff] at hcut
  have hupper : a.isUpper = true := by simpa [hcut.1.1] using isAlpha_iff.1 ha
  exact ⟨hupper, by simpa [hupper] using hcut.1.2⟩

/-- A word of letters is an acronym, or it has lower-case letters behind its first one. -/
theorem Whole.isAcronym_or {w : List Char} (h : Whole w) (hletters : ∀ c ∈ w, c.isAlpha = true) :
    IsAcronym w ∨ ∃ c low, w = c :: low ∧ ∀ d ∈ low, d.isLower = true := by
  induction h with
  | @single a _ => exact .inr ⟨a, [], rfl, by simp⟩
  | @cons a cs ha hcs ih =>
    rw [List.forall_mem_cons] at hletters
    rcases ih hletters.2 with ⟨hlength, hupper⟩ | ⟨c, low, rfl, hlow⟩
    · obtain ⟨b, cs, rfl⟩ := List.exists_cons_of_ne_nil hcs.ne_nil
      obtain ⟨haupper, -⟩ := upper_of_not_apart ha hletters.1 (hupper b List.mem_cons_self)
      exact .inl ⟨Nat.le_succ_of_le hlength, List.forall_mem_cons.2 ⟨haupper, hupper⟩⟩
    · rcases isAlpha_iff.1 (hletters.2 c List.mem_cons_self) with hc | hc
      · obtain ⟨haupper, hnext⟩ := upper_of_not_apart ha hletters.1 hc
        cases low with
        | nil => exact .inl ⟨Nat.le_refl 2, by simp [haupper, hc]⟩
        | cons d low => simp [hlow d List.mem_cons_self] at hnext
      · exact .inr ⟨a, c :: low, rfl, List.forall_mem_cons.2 ⟨hc, hlow⟩⟩

theorem not_isAcronym_of_lower {c : Char} {low : List Char} (hlow : ∀ d ∈ low, d.isLower = true) :
    ¬ IsAcronym (c :: low) := by
  rintro ⟨hlength, hupper⟩
  cases low with
  | nil => exact absurd hlength (by simp)
  | cons d low =>
    have hd := isLower_of_isUpper (hupper d (by simp))
    rw [hlow d List.mem_cons_self] at hd
    cases hd

/-- The first letter shows that a word begins, and of the others only whether a capital has one in lower case behind
it. -/
theorem apart_cons_congr {g xs ys : List Char} {c : Char} (h : Apart g (c :: xs))
    (hnext : c.isUpper = true → xs.head?.any Char.isLower = true → ys.head?.any Char.isLower = true) :
    Apart g (c :: ys) := by
  intro a ha b hb
  obtain rfl := Option.some.inj hb
  refine (h a ha c rfl).imp_right (Or.imp_right fun hcut => ?_)
  simp only [cutsBetween, Bool.or_eq_true, Bool.and_eq_true, List.tail_cons] at hcut ⊢
  exact hcut.imp_left (Or.imp_right fun hend => ⟨hend.1, hnext hend.1.2 hend.2⟩)

end Stencil.Text
