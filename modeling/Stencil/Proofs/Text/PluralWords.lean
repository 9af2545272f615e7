import Stencil.Proofs.Text.Fragments
import Stencil.Proofs.Text.Plural
/-!
# The words of a plural

Whatever the rule, a word of lower-case letters and its plural begin with the same letter, and the plural of more than
one letter has more than one (`pluralWord_cons`). So in an identifier that ends in a lower-case letter the plural of the
last word begins where the word does, and with a letter of the same case (`exists_lower_word`). Segmenting it again
gives the words that the inflector gave, in the spelling of the identifier (`snakecase_pluralize`).
-/

namespace Stencil.Text

/-! ## The first letter -/

theorem ascii_of_isLower {c : Char} (h : c.isLower = true) : c.toNat < 128 := by
  have hc := isLower_iff_toNat.1 h
  omega

theorem toLower_of_isLower {c : Char} (h : c.isLower = true) : c.toLower = c := by
  have hlower : c.isLower = true → c.toLower = c := of_ascii (ascii_of_isLower h) (by decide)
  exact hlower h

theorem map_toLower_of_isLower {cs : List Char} (h : ∀ c ∈ cs, c.isLower = true) : cs.map Char.toLower = cs := by
  rw [List.map_congr_left fun c hc => toLower_of_isLower (h c hc), List.map_id']

theorem lowerChars_of_isLower {cs : List Char} (h : ∀ c ∈ cs, c.isLower = true) : lowerChars cs = cs := by
  rw [lowerChars_of_ascii fun c hc => ascii_of_isLower (h c hc), map_toLower_of_isLower h]

theorem InWord.of_isAlpha {c : Char} (h : c.isAlpha = true) : InWord c :=
  .of_isAlphanum (by rw [Char.isAlphanum, h, Bool.true_or])

theorem isLower_toLower {c : Char} (h : c.isAlpha = true) : c.toLower.isLower = true := by
  have hlower : c.isAlpha = true → c.toLower.isLower = true := of_ascii (InWord.of_isAlpha h).ascii (by decide)
  exact hlower h

theorem isLower_of_mem_map_toLower {cs : List Char} (h : ∀ c ∈ cs, c.isAlpha = true) :
    ∀ d ∈ cs.map Char.toLower, d.isLower = true := by
  intro d hd
  obtain ⟨c, hc, rfl⟩ := List.mem_map.1 hd
  exact isLower_toLower (h c hc)

/-- What the rule makes of a word with the ending begins as the word does, and is no single letter if the word is none:
the rule takes nothing away, or it leaves a letter in front of what it puts there, or it puts at least as much in the
place of the ending, and that begins as the ending does. -/
def PluralRule.KeepsFirst (rule : PluralRule) (ending : List Glyph) : Prop :=
  rule.dropped = 0 ∨ (rule.dropped < ending.length ∧ rule.added ≠ []) ∨
    (rule.dropped = ending.length ∧ rule.dropped ≤ rule.added.length ∧ rule.added ≠ [] ∧
      ending.head? = rule.added.head?.map fun c => .oneOf [c])

instance (rule : PluralRule) (ending : List Glyph) : Decidable (rule.KeepsFirst ending) :=
  inferInstanceAs (Decidable (_ ∨ _))

theorem keepsFirst_pluralRules : ∀ rule ∈ pluralRules, rule.added.all Char.isLower = true ∧
    ∀ ending ∈ rule.endings, rule.KeepsFirst ending := by decide

/-- The plural begins with the letter `a`, and has another one if there is `more`. -/
def BeginsWith (a : Char) (more : Bool) (plural : List Char) : Prop :=
  ∃ rest, plural = a :: rest ∧ (∀ c ∈ rest, c.isLower = true) ∧ (more = true → rest ≠ [])

/-- A letter of the word stays in front of what the rule puts there. -/
theorem PluralRule.beginsWith_apply {rule : PluralRule} {a : Char} {rest : List Char}
    (hadded : ∀ c ∈ rule.added, c.isLower = true) (hrest : ∀ c ∈ rest, c.isLower = true)
    (hdropped : rule.dropped ≤ rest.length) (hmore : rule.dropped = 0 ∨ rule.added ≠ []) :
    BeginsWith a (!rest.isEmpty) (rule.apply (a :: rest)) := by
  have htake : (a :: rest).length - rule.dropped = (rest.length - rule.dropped) + 1 := by
    rw [List.length_cons]
    omega
  refine ⟨rest.take (rest.length - rule.dropped) ++ rule.added, ?_, ?_, fun hne hnil => ?_⟩
  · rw [PluralRule.apply, htake]
    rfl
  · exact List.forall_mem_append.2 ⟨fun c hc => hrest c (List.mem_of_mem_take hc), hadded⟩
  · obtain ⟨htaken, hnone⟩ := List.append_eq_nil_iff.1 hnil
    rcases hmore with hzero | hsome
    · rw [hzero, Nat.sub_zero, List.take_length] at htaken
      simp [htaken] at hne
    · exact hsome hnone

theorem eq_of_admits {a b : Char} (ha : a.isLower = true) (h : Glyph.admits (.oneOf [b]) a = true) : a = b := by
  have hascii := ascii_of_isLower ha
  have hfold : foldLetter a = a := by rw [foldLetter, if_neg (by omega), toLower_of_isLower ha]
  simpa [Glyph.admits, hfold] using h

theorem PluralRule.KeepsFirst.apply {rule : PluralRule} {a : Char} {rest : List Char} {ending : List Glyph}
    (hkeeps : rule.KeepsFirst ending) (hadded : ∀ c ∈ rule.added, c.isLower = true)
    (hword : ∀ c ∈ a :: rest, c.isLower = true) (h : endsIn rule.whole (a :: rest) ending = true) :
    BeginsWith a (!rest.isEmpty) (rule.apply (a :: rest)) := by
  rw [List.forall_mem_cons] at hword
  obtain ⟨ha, hrest⟩ := hword
  simp only [endsIn, Bool.and_eq_true, decide_eq_true_eq, List.length_cons] at h
  obtain ⟨⟨hlength, -⟩, hzip⟩ := h
  rcases hkeeps with hzero | ⟨hshort, hne⟩ | ⟨hall, hlong, hne, hhead⟩
  · exact beginsWith_apply hadded hrest (by omega) (.inl hzero)
  · exact beginsWith_apply hadded hrest (by omega) (.inr hne)
  · rcases Nat.lt_or_eq_of_le hlength with hlonger | heq
    · exact beginsWith_apply hadded hrest (by omega) (.inr hne)
    · -- the ending is the whole word, and its first place fixes the letter
      obtain ⟨b, added, hadd⟩ := List.exists_cons_of_ne_nil hne
      rw [hadd, List.head?_cons, Option.map_some] at hhead
      obtain ⟨glyphs, rfl⟩ := List.head?_eq_some_iff.1 hhead
      rw [heq, Nat.sub_self, List.drop_zero, List.zip_cons_cons, List.all_cons, Bool.and_eq_true] at hzip
      obtain rfl := eq_of_admits ha hzip.1
      have htake : (a :: rest).length - rule.dropped = 0 := by
        rw [hall, heq, List.length_cons, Nat.sub_self]
      refine ⟨added, ?_, fun c hc => hadded c (hadd ▸ List.mem_cons_of_mem a hc), fun hmore hnil => ?_⟩
      · rw [PluralRule.apply, htake, hadd]
        rfl
      · have hpos : 0 < rest.length := List.length_pos_iff.2 (by simpa using hmore)
        rw [hadd, hnil, List.length_singleton] at hlong
        omega

/-- The plural of a word begins as the word does, and is no single letter if the word is none. -/
theorem pluralWord_cons {a : Char} {rest : List Char} (hword : ∀ c ∈ a :: rest, c.isLower = true) :
    BeginsWith a (!rest.isEmpty) (pluralWord (a :: rest)) := by
  have hirregular : ∀ e ∈ irregulars, e.2.toList.all Char.isLower = true ∧ 2 ≤ e.2.toList.length ∧
      e.1.toList.head? = e.2.toList.head? := by decide
  rcases pluralWord_cases (a :: rest) with ⟨-, hplural⟩ | ⟨plural, hmem, hplural⟩ | ⟨rule, hrule, hfits, hplural⟩
  · rw [hplural]
    exact ⟨rest, rfl, fun c hc => hword c (List.mem_cons_of_mem a hc), fun hmore hnil => by simp [hnil] at hmore⟩
  · obtain ⟨hlower, hlength, hhead⟩ := hirregular _ hmem
    rw [String.toList_ofList, lowerChars_of_isLower hword, List.head?_cons] at hhead
    obtain ⟨letters, hletters⟩ : ∃ letters, plural.toList = a :: letters := List.head?_eq_some_iff.1 hhead.symm
    rw [hletters] at hlower hlength
    refine ⟨letters, hplural.trans hletters, fun c hc => List.all_eq_true.1 hlower c (List.mem_cons_of_mem a hc), ?_⟩
    rintro - rfl
    simp at hlength
  · obtain ⟨hadded, hkeeps⟩ := keepsFirst_pluralRules rule hrule
    obtain ⟨ending, hending, hends⟩ := List.any_eq_true.1 hfits
    rw [hplural]
    exact (hkeeps ending hending).apply (List.all_eq_true.1 hadded) hword hends

/-! ## The last word -/

/-- The characters of identifiers: ASCII letters and digits, and the separators. -/
def IsIdentifier (cs : List Char) : Prop := ∀ c ∈ cs, c.isAlphanum = true ∨ isSeparator c = true

-- by the characters of the text, and not by all that there are
instance (cs : List Char) : Decidable (IsIdentifier cs) := List.decidableBAll _ cs

/-- An identifier that ends in a letter ends in a word of letters. -/
theorem exists_letters_word {cs : List Char} (hcs : IsIdentifier cs) (hlast : ∃ z ∈ cs.getLast?, z.isAlpha = true) :
    ∃ g w, cs = g ++ w ∧ Whole w ∧ Apart g w ∧ ∀ c ∈ w, c.isAlpha = true := by
  obtain ⟨z, hz, halpha⟩ := hlast
  obtain ⟨g, w, rfl, hwhole, hapart⟩ := exists_last_word ⟨z, hz, isSeparator_of_letter (isAlpha_iff.1 halpha)⟩
  refine ⟨g, w, rfl, hwhole, hapart, fun c hc => ?_⟩
  rw [List.getLast?_append_of_ne_nil _ hwhole.ne_nil] at hz
  obtain ⟨digits, hdigits⟩ := hwhole.isDigit_eq
  have hdigit : c.isDigit = false := by
    rw [hdigits c hc, ← hdigits z (List.mem_of_getLast? hz)]
    exact isDigit_of_isAlpha halpha
  have halphanum : c.isAlphanum = true := by
    simpa [hwhole.no_separator c hc] using hcs c (List.mem_append_right g hc)
  simpa [Char.isAlphanum, hdigit] using halphanum

/-- An identifier that ends in a lower-case letter ends in a word of a letter and lower-case letters. Other ones can
take their place, but a capital must not be left alone. -/
theorem exists_lower_word {cs : List Char} (hcs : IsIdentifier cs) (hlast : ∃ z ∈ cs.getLast?, z.isLower = true) :
    ∃ g c low, cs = g ++ c :: low ∧ c.isAlpha = true ∧ (∀ d ∈ low, d.isLower = true) ∧
      (c.isUpper = true → low ≠ []) ∧
      ∀ low', (∀ d ∈ low', d.isLower = true) → (c.isUpper = true → low' ≠ []) → Apart g (c :: low') := by
  obtain ⟨z, hz, hlower⟩ := hlast
  obtain ⟨g, w, rfl, hwhole, hapart, hletters⟩ := exists_letters_word hcs ⟨z, hz, isAlpha_iff.2 (.inr hlower)⟩
  rw [List.getLast?_append_of_ne_nil _ hwhole.ne_nil] at hz
  rcases hwhole.isAcronym_or hletters with ⟨-, hupper⟩ | ⟨c, low, rfl, hlow⟩
  · rw [isLower_of_isUpper (hupper z (List.mem_of_getLast? hz))] at hlower
    cases hlower
  · refine ⟨g, c, low, rfl, hletters c List.mem_cons_self, hlow, ?_, fun low' hlow' hmore =>
      apart_cons_congr hapart fun hupper _ => ?_⟩
    · -- otherwise the capital is the last character
      rintro hupper rfl
      obtain rfl : c = z := by simpa using hz
      rw [isLower_of_isUpper hupper] at hlower
      cases hlower
    · obtain ⟨d, low', rfl⟩ := List.exists_cons_of_ne_nil (hmore hupper)
      exact hlow' d List.mem_cons_self

/-! ## The last word of a phrase -/

theorem underscored_append (ws : List (List Char)) (w : List Char) :
    underscored (ws ++ [w]) = underscored ws ++ '_' :: w.map Char.toLower := by
  simp [underscored]

theorem inWord_of_mem_words {cs w : List Char} (h : ∀ c ∈ cs, c.toNat < 128) (hw : w ∈ words cs) :
    ∀ c ∈ w, InWord c :=
  fun c hc => ⟨h c (mem_of_mem_words hw hc).1, (mem_of_mem_words hw hc).2⟩

/-- The last word of the phrase of a text is the last word of the text in lower case. -/
theorem phraseLast_snakeChars {cs w : List Char} {ws : List (List Char)} (h : ∀ c ∈ cs, c.toNat < 128)
    (hwords : words cs = ws ++ [w]) : phraseLast (snakeChars cs) = w.map Char.toLower := by
  have hnone : '_' ∉ w.map Char.toLower := by
    intro hmem
    obtain ⟨c, hc, heq⟩ := List.mem_map.1 hmem
    exact (inWord_of_mem_words h (by simp [hwords]) c hc).toLower.ne_underscore heq
  rw [← phraseLast_cons_underscore, ← underscored_words h (by simp [hwords]), hwords, underscored_append,
    phraseLast_append hnone]

/-- In front of its last word the phrase has the other words. -/
theorem phraseHead_snakeChars {cs w : List Char} {ws : List (List Char)} (h : ∀ c ∈ cs, c.toNat < 128)
    (hwords : words cs = ws ++ [w]) : '_' :: phraseHead (snakeChars cs) = underscored ws ++ ['_'] := by
  have hphrase := phraseHead_append_phraseLast (snakeChars cs)
  rw [phraseLast_snakeChars h hwords] at hphrase
  have hall : '_' :: phraseHead (snakeChars cs) ++ w.map Char.toLower =
      (underscored ws ++ ['_']) ++ w.map Char.toLower := by
    rw [List.cons_append, hphrase, ← underscored_words h (by simp [hwords]), hwords, underscored_append,
      List.append_assoc, List.singleton_append]
  exact List.append_cancel_right hall

/-- What spells the last word of the phrase is the last word of the text. -/
theorem SpellsEnding.word_eq {cs front word behind w : List Char} {ws : List (List Char)}
    (hends : SpellsEnding cs front word behind (phraseLast (snakeChars cs))) (h : ∀ c ∈ cs, c.toNat < 128)
    (hwords : words cs = ws ++ [w]) : word = w := by
  have hlength := congrArg List.length (hends.lowered.trans (phraseLast_snakeChars h hwords))
  rw [List.length_map, List.length_map] at hlength
  -- without its separators the text ends in both
  have hflat := flatten_words cs
  have hkept : word.filter (!isSeparator ·) = word :=
    List.filter_eq_self.2 fun c hc => by rw [(hends.inWord c hc).no_separator]; rfl
  have hlost : behind.filter (!isSeparator ·) = [] :=
    List.filter_eq_nil_iff.2 fun s hs => by rw [hends.separators s hs]; simp
  rw [hwords, List.flatten_append, List.flatten_singleton, hends.eq, List.filter_append, List.filter_append, hkept,
    hlost, List.append_nil] at hflat
  exact (List.append_inj' hflat hlength.symm).2.symm

/-- A lower-case letter gives way to the letter of the text if that is the same one. -/
theorem align_letters {o p : Char} (ho : o.isAlpha = true) (hp : p.isLower = true) (os ps : List Char) :
    align (o :: os) (p :: ps) = (if o.toLower = p then o else p) :: align os ps := by
  have hascii := (InWord.of_isAlpha ho).ascii
  have hlowered : lowerChar o = lowerChar p ↔ o.toLower = p := by
    rw [lowerChar_of_ascii hascii, lowerChar_of_ascii (ascii_of_isLower hp), toLower_of_isLower hp, List.singleton_inj]
  by_cases hsame : o.toLower = p
  · rw [if_pos hsame, align_same (hlowered.2 hsame)]
  · have hunderscore : p ≠ '_' := by
      rintro rfl
      exact absurd hp (by decide)
    have hletter : isAlphanumeric o = true := by
      rw [isAlphanumeric_of_ascii hascii, Char.isAlphanum, ho, Bool.true_or]
    rw [if_neg hsame, align_letter (mt hlowered.1 hsame) hunderscore hletter]

/-- Laid along lower-case letters, such letters are taken as they are. -/
theorem align_lower {low added : List Char} (hlow : ∀ c ∈ low, c.isLower = true)
    (hadded : ∀ c ∈ added, c.isLower = true) : align low added = added := by
  induction low generalizing added with
  | nil => rw [align]
  | cons c low ih =>
    rw [List.forall_mem_cons] at hlow
    cases added with
    | nil => exact align_nil _
    | cons a added =>
      rw [List.forall_mem_cons] at hadded
      have htaken : (if c = a then c else a) = a := by
        split
        · next hsame => exact hsame
        · rfl
      rw [align_letters (isAlpha_iff.2 (.inr hlow.1)) hadded.1, toLower_of_isLower hlow.1, htaken, ih hlow.2 hadded.2]

/-! ## The words of the plural -/

theorem IsIdentifier.ascii {cs : List Char} (h : IsIdentifier cs) : ∀ c ∈ cs, c.toNat < 128 :=
  fun c hc => (h c hc).elim (fun hletter => (InWord.of_isAlphanum hletter).ascii) fun hsep => (of_isSeparator hsep).1

/-- No separators stand behind a text that ends in a word. -/
theorem eq_nil_of_separators {g w cs t : List Char} (h : g ++ w = cs ++ t) (hne : w ≠ []) (hw : ∀ d ∈ w, InWord d)
    (ht : ∀ d ∈ t, isSeparator d = true) : t = [] := by
  rcases List.eq_nil_or_concat' t with rfl | ⟨init, z, rfl⟩
  · rfl
  · have hlast := congrArg List.getLast? h
    rw [List.getLast?_append_of_ne_nil _ hne, ← List.append_assoc, List.getLast?_concat] at hlast
    have hsep := ht z (by simp)
    rw [(hw z (List.mem_of_getLast? hlast)).no_separator] at hsep
    cases hsep

theorem inWord_pluralWord {word : List Char} (h : ∀ c ∈ word, InWord c) :
    pluralWord word ≠ [] ∧ ∀ c ∈ pluralWord word, InWord c := by
  obtain ⟨stem, ending, added, hword, hplural, hadded, -, hmore⟩ := pluralWord_eq fun c hc => (h c hc).ascii
  rw [hplural]
  exact ⟨List.append_ne_nil_of_right_ne_nil _ hadded, List.forall_mem_append.2
    ⟨fun c hc => h c (hword ▸ List.mem_append_left _ hc), fun c hc => .of_isAlphanum (hmore c hc)⟩⟩

/-- The plural of a text that ends in a word is the text in front and what is laid along the word. -/
theorem align_inflectChars_append {g w : List Char} {ws : List (List Char)} (hwords : words (g ++ w) = ws ++ [w])
    (hne : w ≠ []) (hascii : ∀ d ∈ g ++ w, d.toNat < 128) :
    inflectChars (snakeChars (g ++ w)) = phraseHead (snakeChars (g ++ w)) ++ pluralWord (w.map Char.toLower) ∧
      align (g ++ w) (inflectChars (snakeChars (g ++ w))) = g ++ align w (pluralWord (w.map Char.toLower)) := by
  have hword : ∀ d ∈ w, InWord d := inWord_of_mem_words hascii (by simp [hwords])
  have hlast : phraseLast (snakeChars (g ++ w)) = w.map Char.toLower := phraseLast_snakeChars hascii hwords
  have hphrase : snakeChars (g ++ w) ≠ [] := by
    intro hnil
    rw [hnil] at hlast
    exact hne (List.map_eq_nil_iff.1 hlast.symm)
  have hlowered : ∀ d ∈ w.map Char.toLower, InWord d := by
    intro d hd
    obtain ⟨c, hc, rfl⟩ := List.mem_map.1 hd
    exact (hword c hc).toLower
  obtain ⟨hplural, hinWord⟩ := inWord_pluralWord hlowered
  have hinflect : inflectChars (snakeChars (g ++ w)) =
      phraseHead (snakeChars (g ++ w)) ++ pluralWord (w.map Char.toLower) := by
    rw [inflectChars, if_neg (by simpa using hphrase), hlast]
  obtain ⟨front, k, t, hends, halign⟩ := exists_align_snakeChars hascii (phraseHead_append_phraseLast _).symm
    (underscore_not_mem_phraseLast _) hplural hinWord
  obtain rfl : k = w := hends.word_eq hascii hwords
  have hcs := hends.eq
  obtain rfl : t = [] := eq_nil_of_separators (hcs.trans (List.append_assoc ..).symm) hne hword hends.separators
  rw [List.append_nil] at hcs
  obtain rfl : g = front := List.append_cancel_right hcs
  exact ⟨hinflect, by rw [hinflect, halign, List.append_nil]⟩

/-- The text that spells a phrase up to a first letter takes on other lower-case letters behind it. -/
theorem align_inflectChars {g low low' : List Char} {c : Char} (hwords : Apart g (c :: low))
    (hascii : ∀ d ∈ g ++ c :: low, d.toNat < 128) (hc : c.isAlpha = true) (hlow : ∀ d ∈ low, d.isLower = true)
    (hlow' : ∀ d ∈ low', d.isLower = true)
    (hword : pluralWord (c.toLower :: low) = c.toLower :: low') :
    align (g ++ c :: low) (inflectChars (snakeChars (g ++ c :: low))) = g ++ c :: low' ∧
      '_' :: inflectChars (snakeChars (g ++ c :: low)) = underscored (words g ++ [c :: low']) := by
  have hcword : InWord c := .of_isAlpha hc
  have hsplit : words (g ++ c :: low) = words g ++ [c :: low] := by
    rw [words_append hwords, (whole_of_lower hc hlow).words_eq]
  obtain ⟨hinflect, halign⟩ := align_inflectChars_append hsplit (List.cons_ne_nil c low) hascii
  rw [List.map_cons, map_toLower_of_isLower hlow, hword] at hinflect halign
  refine ⟨?_, ?_⟩
  · rw [halign, align_toLower hcword, align_lower hlow hlow']
  · rw [hinflect, ← List.cons_append, phraseHead_snakeChars hascii hsplit, underscored_append, List.map_cons,
      map_toLower_of_isLower hlow', List.append_assoc, List.singleton_append]

/-- The plural of an identifier that ends in a lower-case letter has the same words but for the last one, and these
are, in lower case, the words of the inflected phrase. -/
theorem exists_words_plural {cs : List Char} (hcs : IsIdentifier cs) (hlast : ∃ z ∈ cs.getLast?, z.isLower = true) :
    ∃ plural ws w w', align cs (inflectChars (snakeChars cs)) = plural ∧ (∀ c ∈ plural, c.toNat < 128) ∧
      words cs = ws ++ [w] ∧ words plural = ws ++ [w'] ∧
      '_' :: inflectChars (snakeChars cs) = underscored (words plural) := by
  obtain ⟨g, c, low, rfl, hc, hlow, hmore, hapart⟩ := exists_lower_word hcs hlast
  have hletters : ∀ d ∈ c.toLower :: low, d.isLower = true := List.forall_mem_cons.2 ⟨isLower_toLower hc, hlow⟩
  obtain ⟨low', hword, hlow', hmore'⟩ := pluralWord_cons hletters
  have hrest : c.isUpper = true → low' ≠ [] := fun hupper => hmore' (by simpa using hmore hupper)
  obtain ⟨halign, hinflect⟩ := align_inflectChars (hapart low hlow hmore) hcs.ascii hc hlow hlow' hword
  have hwords : words (g ++ c :: low') = words g ++ [c :: low'] := by
    rw [words_append (hapart low' hlow' hrest), (whole_of_lower hc hlow').words_eq]
  refine ⟨g ++ c :: low', words g, c :: low, c :: low', halign, fun d hd => ?_, ?_, hwords, by rw [hinflect, hwords]⟩
  · rcases List.mem_append.1 hd with hd | hd
    · exact hcs.ascii d (List.mem_append_left _ hd)
    · rcases List.mem_cons.1 hd with rfl | hd
      · exact hcs.ascii d (by simp)
      · exact ascii_of_isLower (hlow' d hd)
  · rw [words_append (hapart low hlow hmore), (whole_of_lower hc hlow).words_eq]

/-- The phrase of a text is its words in lower case, with underscores between them. -/
theorem snakeChars_eq {cs : List Char} (h : ∀ c ∈ cs, c.toNat < 128) (hne : words cs ≠ []) :
    snakeChars cs = ['_'].intercalate ((words cs).map fun w => w.map Char.toLower) := by
  have hunderscored : underscored (words cs) = ((words cs).map fun w => w.map Char.toLower).flatMap ('_' :: ·) := by
    rw [underscored, List.flatMap_map]
  rw [underscored_words h hne, ← cons_intercalate (by simpa using hne)] at hunderscored
  exact (List.cons.inj hunderscored).2

/-- Taking the phrase of a plural is taking the plural of the phrase, if the identifier ends in a lower-case letter. So
the words of the plural are, in lower case, those of the inflected phrase, and all but the last are those of the
identifier as it spells them. -/
theorem snakecase_pluralize (s : String) (hs : IsIdentifier s.toList)
    (hlast : ∃ z ∈ s.toList.getLast?, z.isLower = true) :
    snakecase (pluralize s) = inflect (snakecase s) ∧
      (splitWords (pluralize s)).map lower =
        ((inflect (snakecase s)).toList.splitOn '_').map String.ofList ∧
      (splitWords (pluralize s)).dropLast = (splitWords s).dropLast := by
  obtain ⟨plural, ws, w, w', halign, hascii, hwords, hplural, hinflect⟩ := exists_words_plural hs hlast
  have htext : (pluralize s).toList = plural := by simp [pluralize, pluralizeWith, inflect, snakecase, halign]
  have hphrase : (inflect (snakecase s)).toList = inflectChars (snakeChars s.toList) := by simp [inflect, snakecase]
  have hne : words plural ≠ [] := by simp [hplural]
  rw [underscored_words hascii hne] at hinflect
  have hsnake : snakeChars plural = inflectChars (snakeChars s.toList) := (List.cons.inj hinflect).2.symm
  refine ⟨?_, ?_, ?_⟩
  · rw [snakecase, htext, hsnake, ← hphrase, String.ofList_toList]
  · have hnone : ∀ l ∈ (words plural).map fun w => w.map Char.toLower, '_' ∉ l := by
      intro l hl hmem
      obtain ⟨w, hw, rfl⟩ := List.mem_map.1 hl
      obtain ⟨c, hc, heq⟩ := List.mem_map.1 hmem
      exact (inWord_of_mem_words hascii hw c hc).toLower.ne_underscore heq
    rw [hphrase, ← hsnake, snakeChars_eq hascii hne, List.splitOn_intercalate '_' hnone (by simpa using hne), splitWords,
      htext, List.map_map, List.map_map]
    refine List.map_congr_left fun w hw => ?_
    have hw := inWord_of_mem_words hascii hw
    simp [lower, lowerChars_of_ascii fun c hc => (hw c hc).ascii]
  · simp [splitWords, htext, hplural, hwords]

/-- A stem that changes, behind words of all kinds. -/
theorem snakecase_pluralize_mouse :
    IsIdentifier "my_HTTP2 hugeMouse".toList ∧ (∃ z ∈ "my_HTTP2 hugeMouse".toList.getLast?, z.isLower = true) ∧
      snakecase (pluralize "my_HTTP2 hugeMouse") = "my_http_2_huge_mice" ∧
      (splitWords (pluralize "my_HTTP2 hugeMouse")).map lower = ["my", "http", "2", "huge", "mice"] ∧
      (splitWords (pluralize "my_HTTP2 hugeMouse")).dropLast = ["my", "HTTP", "2", "huge"] := by
  have hs : IsIdentifier "my_HTTP2 hugeMouse".toList := by decide
  have hlast : ∃ z ∈ "my_HTTP2 hugeMouse".toList.getLast?, z.isLower = true := ⟨'e', by decide, by decide⟩
  obtain ⟨hsnake, hlower, hothers⟩ := snakecase_pluralize "my_HTTP2 hugeMouse" hs hlast
  refine ⟨hs, hlast, ?_, ?_, ?_⟩
  · rw [hsnake]
    decide
  · rw [hlower]
    decide
  · rw [hothers]
    decide

end Stencil.Text
