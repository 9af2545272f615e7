import Mathlib.Data.List.Basic
import Stencil.Proofs.Text.Words
import Stencil.Text.Inflection
/-!
# What an inflection changes

Whatever the rule, the plural of a word is the word with letters at its end taken away and others put in their place
(`pluralWord_eq`). The rules are data, so this is checked of each rule (`wellFormed_pluralRules`) and holds of all words
that it fits.
-/

namespace Stencil.Text

/-- What is true of the 128 characters of ASCII is true of each of them. -/
@[elab_as_elim]
theorem of_ascii {P : Char → Prop} {c : Char} (h : c.toNat < 128) (hall : ∀ n < 128, P (Char.ofNat n)) : P c := by
  have hc := hall c.toNat h
  rwa [Char.ofNat_toNat] at hc

/-- Lowering a character of ASCII keeps it of its kind. -/
theorem toLower_of_ascii {c : Char} (h : c.toNat < 128) :
    c.toLower.toNat < 128 ∧ isSeparator c.toLower = isSeparator c ∧ c.toLower.isAlphanum = c.isAlphanum ∧
      c.toLower.toLower = c.toLower :=
  of_ascii h (by decide)

/-! ## Rules -/

/-- Only letters and digits may stand at the place. -/
def Glyph.IsLetter : Glyph → Prop
  | oneOf letters => letters.all Char.isAlphanum = true
  | noneOf _ => False

instance : (g : Glyph) → Decidable g.IsLetter
  | .oneOf letters => inferInstanceAs (Decidable (letters.all Char.isAlphanum = true))
  | .noneOf _ => inferInstanceAs (Decidable False)

/-- The rule takes letters away and puts letters there. One that puts nothing there takes nothing away, and the word
is its ending. -/
structure PluralRule.WellFormed (rule : PluralRule) : Prop where
  added : rule.added.all Char.isAlphanum = true
  dropped : ∀ ending ∈ rule.endings, rule.dropped ≤ ending.length ∧
    ∀ g ∈ ending.drop (ending.length - rule.dropped), g.IsLetter
  none_added : rule.added = [] → rule.whole = true ∧ rule.dropped = 0 ∧
    ∀ ending ∈ rule.endings, ending ≠ [] ∧ ∀ g ∈ ending, g.IsLetter

instance (rule : PluralRule) : Decidable rule.WellFormed :=
  decidable_of_iff
    (rule.added.all Char.isAlphanum = true ∧
      (∀ ending ∈ rule.endings, rule.dropped ≤ ending.length ∧
        ∀ g ∈ ending.drop (ending.length - rule.dropped), g.IsLetter) ∧
      (rule.added = [] → rule.whole = true ∧ rule.dropped = 0 ∧
        ∀ ending ∈ rule.endings, ending ≠ [] ∧ ∀ g ∈ ending, g.IsLetter))
    ⟨fun ⟨h1, h2, h3⟩ => ⟨h1, h2, h3⟩, fun ⟨h1, h2, h3⟩ => ⟨h1, h2, h3⟩⟩

theorem wellFormed_pluralRules : ∀ rule ∈ pluralRules, rule.WellFormed := by decide

theorem isAlphanum_of_admits {g : Glyph} {c : Char} (hc : c.toNat < 128) (hg : g.IsLetter) (h : g.admits c = true) :
    c.isAlphanum = true := by
  cases g with
  | noneOf letters => exact hg.elim
  | oneOf letters =>
    have hfold : foldLetter c = c.toLower := if_neg (by omega)
    simp only [Glyph.admits, hfold, List.contains_eq_mem, decide_eq_true_eq] at h
    rw [← (toLower_of_ascii hc).2.2.1]
    exact List.all_eq_true.1 hg _ h

theorem length_le_of_endsIn {whole : Bool} {word : List Char} {ending : List Glyph}
    (h : endsIn whole word ending = true) : ending.length ≤ word.length := by
  simp only [endsIn, Bool.and_eq_true, decide_eq_true_eq] at h
  exact h.1.1

/-- At each place of the ending the word has a character that may stand there. -/
theorem admits_of_endsIn {whole : Bool} {word : List Char} {ending : List Glyph} (h : endsIn whole word ending = true)
    {i : Nat} {g : Glyph} (hg : ending[i]? = some g) :
    ∃ c, word[word.length - ending.length + i]? = some c ∧ g.admits c = true := by
  have hlength := length_le_of_endsIn h
  simp only [endsIn, Bool.and_eq_true, List.all_eq_true] at h
  obtain ⟨hi, -⟩ := List.getElem?_eq_some_iff.1 hg
  obtain ⟨c, hc⟩ : ∃ c, word[word.length - ending.length + i]? = some c :=
    ⟨word[word.length - ending.length + i], List.getElem?_eq_getElem (by omega)⟩
  refine ⟨c, hc, h.2 (c, g) (List.mem_of_getElem? (i := i) ?_)⟩
  rw [List.getElem?_zip_eq_some, List.getElem?_drop]
  exact ⟨hc, hg⟩

/-- Where the ending of a rule has letters, the word has letters. -/
theorem isAlphanum_of_endsIn {whole : Bool} {word : List Char} {ending : List Glyph}
    (hword : ∀ c ∈ word, c.toNat < 128) (h : endsIn whole word ending = true) {n : Nat} (hn : n ≤ ending.length)
    (hletters : ∀ g ∈ ending.drop (ending.length - n), g.IsLetter) :
    ∀ c ∈ word.drop (word.length - n), c.isAlphanum = true := by
  intro c hc
  have hlength := length_le_of_endsIn h
  obtain ⟨i, hi⟩ := List.mem_iff_getElem?.1 hc
  rw [List.getElem?_drop] at hi
  obtain ⟨hbound, -⟩ := List.getElem?_eq_some_iff.1 hi
  -- the place in the ending that stands as far from the end
  obtain ⟨g, hg⟩ : ∃ g, ending[ending.length - n + i]? = some g :=
    ⟨ending[ending.length - n + i], List.getElem?_eq_getElem (by omega)⟩
  obtain ⟨d, hd, hadmits⟩ := admits_of_endsIn h hg
  have hplace : word.length - ending.length + (ending.length - n + i) = word.length - n + i := by omega
  rw [hplace, hi] at hd
  obtain rfl := Option.some.inj hd
  refine isAlphanum_of_admits (hword c (List.mem_of_mem_drop hc)) (hletters g ?_) hadmits
  exact List.mem_of_getElem? (by rw [List.getElem?_drop, hg])

/-! ## Words -/

/-- The plural has letters in the place of letters at the end of a word. -/
def Inflected (word plural : List Char) : Prop :=
  ∃ stem ending added, word = stem ++ ending ∧ plural = stem ++ added ∧ added ≠ [] ∧
    (∀ c ∈ ending, c.isAlphanum = true) ∧ ∀ c ∈ added, c.isAlphanum = true

theorem PluralRule.WellFormed.inflected {rule : PluralRule} (hrule : rule.WellFormed) {word : List Char}
    (hword : ∀ c ∈ word, c.toNat < 128) (h : rule.fits word = true) : Inflected word (rule.apply word) := by
  obtain ⟨ending, hending, hends⟩ := List.any_eq_true.1 h
  by_cases hnone : rule.added = []
  · -- the whole word stays, and it is made of letters
    obtain ⟨hwhole, hdropped, hletters⟩ := hrule.none_added hnone
    have hlength : ending.length = word.length := by
      have hends' := hends
      simp only [endsIn, hwhole, Bool.not_true, Bool.false_or, Bool.and_eq_true, beq_iff_eq] at hends'
      exact hends'.1.2
    have hall : ∀ c ∈ word, c.isAlphanum = true := by
      have hall := isAlphanum_of_endsIn hword hends (Nat.le_refl _) fun g hg =>
        (hletters ending hending).2 g (List.mem_of_mem_drop hg)
      rwa [hlength, Nat.sub_self, List.drop_zero] at hall
    have happly : rule.apply word = word := by simp [PluralRule.apply, hdropped, hnone]
    have hne : word ≠ [] := by
      rintro rfl
      exact (hletters ending hending).1 (List.eq_nil_of_length_eq_zero hlength)
    exact ⟨[], word, word, rfl, happly, hne, hall, hall⟩
  · obtain ⟨hdropped, hletters⟩ := hrule.dropped ending hending
    refine ⟨word.take (word.length - rule.dropped), word.drop (word.length - rule.dropped), rule.added,
      (List.take_append_drop _ _).symm, rfl, hnone, ?_, List.all_eq_true.1 hrule.added⟩
    exact isAlphanum_of_endsIn hword hends hdropped hletters

/-- A word that is a text of letters when it is lowered is made of letters. -/
theorem isAlphanum_of_lowered {word : List Char} (hword : ∀ c ∈ word, c.toNat < 128) {s : String}
    (h : String.ofList (lowerChars word) = s) (hs : ∀ c ∈ s.toList, c.isAlphanum = true) :
    ∀ c ∈ word, c.isAlphanum = true := by
  intro c hc
  rw [← (toLower_of_ascii (hword c hc)).2.2.1]
  apply hs
  rw [← h, String.toList_ofList, lowerChars_of_ascii hword]
  exact List.mem_map_of_mem hc

/-- A word is its own plural, or has one of its own, or follows a rule that fits it. -/
theorem pluralWord_cases (word : List Char) :
    (String.ofList (lowerChars word) ∈ uncountables ∧ pluralWord word = word) ∨
      (∃ plural, (String.ofList (lowerChars word), plural) ∈ irregulars ∧ pluralWord word = plural.toList) ∨
      ∃ rule ∈ pluralRules, rule.fits word = true ∧ pluralWord word = rule.apply word := by
  unfold pluralWord
  simp only
  split
  · next hmem => exact .inl ⟨List.contains_iff_mem.1 hmem, rfl⟩
  · split
    · next plural hlookup =>
      obtain ⟨before, after, hentries, -⟩ := List.lookup_eq_some_iff.1 hlookup
      exact .inr (.inl ⟨plural, hentries ▸ List.mem_append_right before List.mem_cons_self, rfl⟩)
    · split
      · next rule hfind =>
        have hfits : rule.fits word = true := by simpa using List.find?_some hfind
        exact .inr (.inr ⟨rule, List.mem_of_find?_eq_some hfind, hfits, rfl⟩)
      · next hfind =>
        -- the last rule fits every word
        have hlast : (⟨[[]], false, 0, "s".toList⟩ : PluralRule) ∈ pluralRules := by decide
        have hfits := List.find?_eq_none.1 hfind _ hlast
        simp [PluralRule.fits, endsIn] at hfits

/-- The plural of a word in ASCII has other letters in the place of some at its end. -/
theorem pluralWord_eq {word : List Char} (hword : ∀ c ∈ word, c.toNat < 128) : Inflected word (pluralWord word) := by
  have huncountable : ∀ s ∈ uncountables, s ≠ "" ∧ s.toList.all Char.isAlphanum = true := by decide
  have hirregular : ∀ e ∈ irregulars, e.1.toList.all Char.isAlphanum = true ∧ e.2.toList ≠ [] ∧
      e.2.toList.all Char.isAlphanum = true := by decide
  rcases pluralWord_cases word with ⟨hmem, hplural⟩ | ⟨plural, hmem, hplural⟩ | ⟨rule, hrule, hfits, hplural⟩
  · obtain ⟨hne, hletters⟩ := huncountable _ hmem
    have hall := isAlphanum_of_lowered hword rfl (List.all_eq_true.1 hletters)
    refine ⟨[], word, word, rfl, hplural, ?_, hall, hall⟩
    rintro rfl
    exact hne rfl
  · obtain ⟨hkey, hne, hletters⟩ := hirregular _ hmem
    exact ⟨[], word, plural.toList, rfl, hplural, hne, isAlphanum_of_lowered hword rfl (List.all_eq_true.1 hkey),
      List.all_eq_true.1 hletters⟩
  · rw [hplural]
    exact (wellFormed_pluralRules rule hrule).inflected hword hfits

theorem phraseHead_append_phraseLast (phrase : List Char) : phraseHead phrase ++ phraseLast phrase = phrase := by
  rw [phraseHead, phraseLast, takeEnd, ← List.reverse_append, List.takeWhile_append_dropWhile, List.reverse_reverse]

theorem underscore_not_mem_phraseLast (phrase : List Char) : '_' ∉ phraseLast phrase := by
  rw [phraseLast, takeEnd, List.mem_reverse]
  intro hmem
  have hne := List.all_eq_true.1 List.all_takeWhile _ hmem
  simp at hne

/-- An underscore in front of all words makes no difference to the last one. -/
theorem phraseLast_cons_underscore (phrase : List Char) : phraseLast ('_' :: phrase) = phraseLast phrase := by
  rw [phraseLast, phraseLast, takeEnd, takeEnd, List.reverse_cons, List.takeWhile_append]
  split
  · next h =>
    rw [(List.takeWhile_prefix _).eq_of_length h]
    simp
  · rfl

theorem phraseLast_append {head w : List Char} (hw : '_' ∉ w) : phraseLast (head ++ '_' :: w) = w := by
  have hall : ∀ c ∈ w.reverse, (c != '_') = true := by
    intro c hc
    rw [bne_iff_ne]
    rintro rfl
    exact hw (List.mem_reverse.1 hc)
  have hreverse : (head ++ '_' :: w).reverse = w.reverse ++ '_' :: head.reverse := by simp
  rw [phraseLast, takeEnd, hreverse, List.takeWhile_append_of_pos hall, List.takeWhile_cons_of_neg (by simp),
    List.append_nil, List.reverse_reverse]

/-- The plural of a phrase in ASCII has other letters in the place of some at the end of its last word. -/
theorem inflectChars_eq {phrase : List Char} (hascii : ∀ c ∈ phrase, c.toNat < 128) (hne : phrase ≠ []) :
    Inflected phrase (inflectChars phrase) := by
  have hphrase := phraseHead_append_phraseLast phrase
  have hlast : ∀ c ∈ phraseLast phrase, c.toNat < 128 := fun c hc =>
    hascii c (hphrase ▸ List.mem_append_right _ hc)
  obtain ⟨stem, ending, added, hword, hplural, hadded, hletters⟩ := pluralWord_eq hlast
  refine ⟨phraseHead phrase ++ stem, ending, added, ?_, ?_, hadded, hletters⟩
  · rw [List.append_assoc, ← hword]
    exact hphrase.symm
  · rw [inflectChars, if_neg (by simpa using hne), hplural, List.append_assoc]

end Stencil.Text
