import Stencil.Proofs.Text.PluralWords
/-!
# The spelling of a plural

What an inflector makes of the phrase is laid along the identifier, and it need not be a plural for that. Whatever it
is, no letter of it is lost or comes twice (`letters_pluralizeWith`). Letters that are added to the phrase are added to
the identifier, and nothing else happens to it (`pluralizeWith_append`). Where another word is put in the place of the
last one, all in front of that word stays (`pluralizeWith_lastWord`), and the English plural even leaves the marks
inside of it where they are (`exists_pluralize_eq_append`).
-/

namespace Stencil.Text

/-! ## Letters -/

/-- The letters and digits of a text, in lower case. -/
def letters (cs : List Char) : List Char := (cs.filter Char.isAlphanum).map Char.toLower

theorem letters_cons_of_not_isAlphanum {c : Char} (h : c.isAlphanum = false) (cs : List Char) :
    letters (c :: cs) = letters cs := by
  rw [letters, letters, List.filter_cons_of_neg (by simp [h])]

/-- Two characters that only differ in case are the same letter, or no letters. -/
theorem letters_cons_congr {c d : Char} {cs ds : List Char} (hc : c.toNat < 128) (hd : d.toNat < 128)
    (h : c.toLower = d.toLower) (hrest : letters cs = letters ds) : letters (c :: cs) = letters (d :: ds) := by
  have hkind : c.isAlphanum = d.isAlphanum := by
    rw [← (toLower_of_ascii hc).2.2.1, h, (toLower_of_ascii hd).2.2.1]
  cases hletter : d.isAlphanum with
  | false =>
    rw [letters_cons_of_not_isAlphanum (hkind.trans hletter), letters_cons_of_not_isAlphanum hletter, hrest]
  | true =>
    rw [letters] at hrest ⊢
    rw [List.filter_cons_of_pos (hkind.trans hletter), List.map_cons, hrest, h, letters, letters,
      List.filter_cons_of_pos hletter, List.map_cons]

/-- Laid along a text, a phrase keeps its letters. -/
theorem letters_align {cs ps : List Char} (hcs : ∀ c ∈ cs, c.toNat < 128) (hps : ∀ p ∈ ps, p.toNat < 128) :
    letters (align cs ps) = letters ps := by
  fun_induction align cs ps with
  | case1 ps => rfl
  | case2 c cs => rfl
  | case3 c cs p ps hsame ih =>
    rw [List.forall_mem_cons] at hcs hps
    rw [lowerChar_of_ascii hcs.1, lowerChar_of_ascii hps.1] at hsame
    exact letters_cons_congr hcs.1 hps.1 (List.cons.inj hsame).1 (ih hcs.2 hps.2)
  | case4 c cs ps hne ih =>
    rw [List.forall_mem_cons] at hps
    rw [ih hcs hps.2, letters_cons_of_not_isAlphanum (by decide)]
  | case5 c cs p ps hne hunderscore hmark ih =>
    rw [List.forall_mem_cons] at hcs
    rw [isAlphanumeric_of_ascii hcs.1] at hmark
    rw [letters_cons_of_not_isAlphanum (by simpa using hmark), ih hcs.2 hps]
  | case6 c cs p ps hne hunderscore hletter ih =>
    rw [List.forall_mem_cons] at hcs hps
    exact letters_cons_congr hps.1 hps.1 rfl (ih hcs.2 hps.2)

theorem toList_pluralizeWith (inflector : String → String) (s : String) :
    (pluralizeWith inflector s).toList = align s.toList (inflector (snakecase s)).toList := String.toList_ofList

theorem toList_snakecase (s : String) : (snakecase s).toList = snakeChars s.toList := String.toList_ofList

theorem toList_pluralize (s : String) :
    (pluralize s).toList = align s.toList (inflectChars (snakeChars s.toList)) := by
  rw [pluralize, toList_pluralizeWith, inflect, String.toList_ofList, toList_snakecase]

/-- Whatever an inflector answers, all its letters and digits are in the plural, in order and no other ones. -/
theorem letters_pluralizeWith (inflector : String → String) (s : String) (hs : ∀ c ∈ s.toList, c.toNat < 128)
    (hphrase : ∀ c ∈ (inflector (snakecase s)).toList, c.toNat < 128) :
    letters (pluralizeWith inflector s).toList = letters (inflector (snakecase s)).toList := by
  rw [toList_pluralizeWith]
  exact letters_align hs hphrase

/-- An answer that has nothing to do with the identifier. -/
theorem letters_pluralizeWith_unrelated :
    let inflector := fun _ : String => "9-Lives_of mice"
    (∀ c ∈ "big_RedFox!".toList, c.toNat < 128) ∧
      (∀ c ∈ (inflector (snakecase "big_RedFox!")).toList, c.toNat < 128) ∧
      letters (pluralizeWith inflector "big_RedFox!").toList = "9livesofmice".toList := by
  intro inflector
  have hs : ∀ c ∈ "big_RedFox!".toList, c.toNat < 128 := by simp
  have hphrase : ∀ c ∈ (inflector (snakecase "big_RedFox!")).toList, c.toNat < 128 := by simp [inflector]
  refine ⟨hs, hphrase, ?_⟩
  rw [letters_pluralizeWith inflector "big_RedFox!" hs hphrase]
  decide

/-! ## A phrase with something added -/

/-- A text is given back by what it spells, but for the separators at its end. -/
theorem Spells.align_self {cs ps : List Char} (h : Spells cs ps) : align cs ps = cs.rdropWhile isSeparator := by
  induction h with
  | nil hls => rw [align_nil, List.rdropWhile_eq_nil_iff.2 hls]
  | letter hc _ ih =>
    rw [align_toLower hc, ih]
    exact (rdropWhile_append_cons hc.no_separator [] _).symm
  | word hls hc _ ih => rw [align_word hls hc hc.toLower, align_toLower hc, ih, rdropWhile_append_cons hc.no_separator]

/-- A text is given back by its own phrase, but for the separators at its end. -/
theorem align_snakeChars {cs : List Char} (h : ∀ c ∈ cs, c.toNat < 128) :
    align cs (snakeChars cs) = cs.rdropWhile isSeparator := by
  by_cases hwords : words cs = []
  · rw [snakeChars_of_words_eq_nil hwords, align_nil,
      List.rdropWhile_eq_nil_iff.2 (isSeparator_of_words_eq_nil hwords)]
  · have hspells := spells_snakeChars h hwords
    obtain ⟨p, ps, hhead, hp⟩ := hspells.inWord_head
    rw [hhead] at hspells ⊢
    rw [hspells.align_of_cons hp, hspells.align_self]

/-- What is added to the phrase is added to the text. -/
theorem align_snakeChars_append {cs added : List Char} (h : ∀ c ∈ cs, c.toNat < 128) (hne : added ≠ [])
    (hadded : ∀ c ∈ added, InWord c) : align cs (snakeChars cs ++ added) = cs ++ added := by
  obtain ⟨g, k, t, hends, halign⟩ :=
    exists_align_snakeChars h (List.append_nil _).symm List.not_mem_nil hne hadded
  obtain rfl : k = [] := List.map_eq_nil_iff.1 hends.lowered
  rw [halign, List.nil_append, align_behind hends.separators hne hadded, ← List.append_assoc, hends.eq, List.nil_append]

/-- An inflector that adds letters and digits to the phrase adds them to the identifier, whose spelling stays as it is.
One that adds nothing gives the identifier back exactly if there is no separator at its end. -/
theorem pluralizeWith_append (inflector : String → String) (x suffix : String) (hx : ∀ c ∈ x.toList, c.toNat < 128)
    (hsuffix : ∀ c ∈ suffix.toList, c.isAlphanum = true) (happend : inflector (snakecase x) = snakecase x ++ suffix) :
    pluralizeWith inflector x = x ++ suffix ↔
      suffix ≠ "" ∨ ∀ c ∈ x.toList.getLast?, isSeparator c = false := by
  rw [← String.toList_inj, toList_pluralizeWith, happend, String.toList_append, String.toList_append, toList_snakecase]
  by_cases hne : suffix = ""
  · rw [hne, String.toList_empty, List.append_nil, List.append_nil, align_snakeChars hx, rdropWhile_eq_iff]
    simp
  · have hnil : suffix.toList ≠ [] := by simpa using hne
    simp [align_snakeChars_append hx hnil fun c hc => .of_isAlphanum (hsuffix c hc), hne]

/-- Separators of all kinds, in front, in a row and at the end. -/
theorem pluralizeWith_append_separators :
    (∀ c ∈ "_my_ _HTTP2 redFox-Den!".toList, c.toNat < 128) ∧ (∀ c ∈ "zz9".toList, c.isAlphanum = true) ∧
      ("zz9" ≠ "" ∨ ∀ c ∈ "_my_ _HTTP2 redFox-Den!".toList.getLast?, isSeparator c = false) ∧
      pluralizeWith (· ++ "zz9") "_my_ _HTTP2 redFox-Den!" = "_my_ _HTTP2 redFox-Den!zz9" := by
  have hx : ∀ c ∈ "_my_ _HTTP2 redFox-Den!".toList, c.toNat < 128 := by simp
  have hsuffix : ∀ c ∈ "zz9".toList, c.isAlphanum = true := List.all_eq_true.1 (by decide)
  have hne : "zz9" ≠ "" ∨ ∀ c ∈ "_my_ _HTTP2 redFox-Den!".toList.getLast?, isSeparator c = false :=
    .inl (by decide)
  exact ⟨hx, hsuffix, hne, (pluralizeWith_append (· ++ "zz9") _ "zz9" hx hsuffix rfl).2 hne⟩

/-! ## Another last word -/

/-- An inflector that puts letters and digits in the place of the last word leaves everything in front of the last word
of the identifier as it is. -/
theorem pluralizeWith_lastWord (inflector : String → String) (x word : String) (hx : ∀ c ∈ x.toList, c.toNat < 128)
    (hwords : splitWords x ≠ []) (hne : word ≠ "") (hword : ∀ c ∈ word.toList, c.isAlphanum = true)
    (hlast : (inflector (snakecase x)).toList = phraseHead (snakecase x).toList ++ word.toList) :
    ∃ front last behind rest : String, x = front ++ last ++ behind ∧ (splitWords x).getLast? = some last ∧
      (∀ c ∈ behind.toList, isSeparator c = true) ∧ pluralizeWith inflector x = front ++ rest ∧
      letters rest.toList = letters word.toList := by
  have hnil : word.toList ≠ [] := by simpa using hne
  obtain ⟨ws, w, hsplit⟩ := (List.eq_nil_or_concat' (words x.toList)).resolve_left (by simpa [splitWords] using hwords)
  rw [toList_snakecase] at hlast
  obtain ⟨front, last, behind, hends, halign⟩ :=
    exists_align_snakeChars hx (phraseHead_append_phraseLast _).symm (underscore_not_mem_phraseLast _) hnil
      fun c hc => .of_isAlphanum (hword c hc)
  have hw := hends.word_eq hx hsplit
  have hascii : ∀ c ∈ last ++ behind, c.toNat < 128 := fun c hc => hx c (hends.eq ▸ List.mem_append_right front hc)
  refine ⟨String.ofList front, String.ofList last, String.ofList behind,
    String.ofList (align (last ++ behind) word.toList), ?_, ?_, ?_, ?_, ?_⟩
  · apply String.toList_injective
    simpa using hends.eq
  · simp [splitWords, hsplit, hw]
  · simpa using hends.separators
  · apply String.toList_injective
    rw [toList_pluralizeWith, hlast, halign]
    simp
  · rw [String.toList_ofList]
    exact letters_align hascii fun c hc => (InWord.of_isAlphanum (hword c hc)).ascii

/-- The new word begins as the characters do that are left, and the front stays. -/
theorem pluralizeWith_lastWord_foxes :
    let x := "_my HTTP2red_!FoxOx! "
    let inflector := fun _ : String => "my_http_2_red_fox_foxes9"
    (∀ c ∈ x.toList, c.toNat < 128) ∧ splitWords x ≠ [] ∧ "foxes9" ≠ "" ∧
      (∀ c ∈ "foxes9".toList, c.isAlphanum = true) ∧
      (inflector (snakecase x)).toList = phraseHead (snakecase x).toList ++ "foxes9".toList ∧
      ∃ rest : String, pluralizeWith inflector x = "_my HTTP2red_!Fox" ++ rest ∧
        letters rest.toList = "foxes9".toList := by
  intro x inflector
  have hx : ∀ c ∈ x.toList, c.toNat < 128 := by simp [x]
  have hwords : splitWords x ≠ [] := by decide
  have hword : ∀ c ∈ "foxes9".toList, c.isAlphanum = true := List.all_eq_true.1 (by decide)
  have hlast : (inflector (snakecase x)).toList = phraseHead (snakecase x).toList ++ "foxes9".toList := by decide
  refine ⟨hx, hwords, by decide, hword, hlast, ?_⟩
  obtain ⟨front, last, behind, rest, hsplit, hfragment, hbehind, hplural, hletters⟩ :=
    pluralizeWith_lastWord inflector x "foxes9" hx hwords (by decide) hword hlast
  obtain rfl : "Ox" = last := Option.some.inj ((by decide : some "Ox" = (splitWords x).getLast?).trans hfragment)
  have hends : SpellsEnding x.toList front.toList "Ox".toList behind.toList "ox".toList :=
    ⟨by simp [hsplit], by decide, fun c hc => .of_isAlphanum (List.all_eq_true.1 (by decide) c hc), hbehind⟩
  have hfront : "_my HTTP2red_!Fox".toList ++ "Ox".toList = front.toList ++ "Ox".toList := by
    rw [← hends.rdropWhile_eq (by decide)]
    decide
  rw [← String.toList_inj.1 (List.append_cancel_right hfront)] at hplural
  exact ⟨rest, hplural, by rw [hletters]; decide⟩

/-! ## The English plural -/

/-- The English plural of a text that ends in a letter or digit has letters and digits in the place of such ones at the
end, up to the last mark. -/
theorem exists_align_inflectChars {cs : List Char} (h : ∀ c ∈ cs, c.toNat < 128)
    (hlast : ∃ z ∈ cs.getLast?, z.isAlphanum = true) :
    ∃ rest, (∀ c ∈ rest, c.isAlphanum = true) ∧
      align cs (inflectChars (snakeChars cs)) = cs.rdropWhile Char.isAlphanum ++ rest := by
  obtain ⟨z, hz, hletter⟩ := hlast
  obtain ⟨init, hinit⟩ := List.getLast?_eq_some_iff.1 hz
  have hwords : words cs ≠ [] := by
    intro hnil
    have hsep := isSeparator_of_words_eq_nil hnil z (List.mem_of_getLast? hz)
    rw [(of_isSeparator hsep).2] at hletter
    cases hletter
  obtain ⟨stem, ending, added, hphrase, hplural, hadded, hletters, hmore⟩ := inflected_snakeChars h hwords
  obtain ⟨g, k, t, hends, hk, halign⟩ := exists_align_letters h hphrase hletters hadded hmore
  have hparts : init ++ [z] = (g ++ k) ++ t := by rw [← hinit, hends.eq, List.append_assoc]
  obtain rfl : t = [] := eq_nil_of_separators hparts (List.cons_ne_nil z [])
    (by simpa using InWord.of_isAlphanum hletter) hends.separators
  -- the marks are all in front of the ending, and the new one has none
  have hnone := marks_align_ending hk hends.separators hmore
  rw [ite_self, marks, List.filter_eq_nil_iff] at hnone
  refine ⟨g.rtakeWhile Char.isAlphanum ++ align (k ++ []) added, List.forall_mem_append.2 ⟨?_, ?_⟩, ?_⟩
  · exact fun c hc => List.mem_rtakeWhile_imp hc
  · exact fun c hc => by simpa using hnone c hc
  · rw [hplural, halign, hends.eq, List.append_nil, rdropWhile_append_of_pos hk, ← List.append_assoc,
      List.rdropWhile_append_rtakeWhile]

/-- The English plural of an identifier that ends in a letter or digit begins with all of the identifier up to its last
mark, be that a separator or not, and goes on with letters and digits only. -/
theorem exists_pluralize_eq_append (s : String) (h : ∀ c ∈ s.toList, c.toNat < 128)
    (hlast : ∃ z ∈ s.toList.getLast?, z.isAlphanum = true) :
    ∃ rest, (∀ c ∈ rest, c.isAlphanum = true) ∧
      (pluralize s).toList = s.toList.rdropWhile Char.isAlphanum ++ rest := by
  rw [pluralize, toList_pluralizeWith, inflect, String.toList_ofList, toList_snakecase]
  exact exists_align_inflectChars h hlast

/-- Marks that do not separate words stay in front of a stem that changes. -/
theorem exists_pluralize_eq_append_mouse :
    (∀ c ∈ "my big-Red.ox?Mouse".toList, c.toNat < 128) ∧
      (∃ z ∈ "my big-Red.ox?Mouse".toList.getLast?, z.isAlphanum = true) ∧
      ∃ rest, (∀ c ∈ rest, c.isAlphanum = true) ∧
        (pluralize "my big-Red.ox?Mouse").toList = "my big-Red.ox?".toList ++ rest := by
  have hs : ∀ c ∈ "my big-Red.ox?Mouse".toList, c.toNat < 128 := by simp
  have hlast : ∃ z ∈ "my big-Red.ox?Mouse".toList.getLast?, z.isAlphanum = true := ⟨'e', by decide, by decide⟩
  have hfront : "my big-Red.ox?Mouse".toList.rdropWhile Char.isAlphanum = "my big-Red.ox?".toList := by decide
  obtain ⟨rest, hrest, hplural⟩ := exists_pluralize_eq_append _ hs hlast
  exact ⟨hs, hlast, rest, hrest, by rw [hplural, hfront]⟩

end Stencil.Text
