import Stencil.Proofs.Text.Spelling
/-!
# Plurals of acronyms

The plural of an identifier is the identifier up to its last word and the plural of that word, and the words are those
in front and those of the plural. A word with at most one capital has one word as its plural. An acronym is in
capitals, and what its plural has of other letters comes in lower case: so `IDs` ends an acronym `I` and begins a word
`Ds`. The plural is one word only if nothing is changed in it, or all behind the first letter
(`length_splitWords_pluralize`).
-/

namespace Stencil.Text

/-! ## Plurals that are part of their word -/

/-- The rule puts there as much as it takes away, or begins with another letter than what it takes away. -/
def PluralRule.Alters (rule : PluralRule) : Prop :=
  rule.dropped ≤ rule.added.length ∨ ∀ ending ∈ rule.endings, rule.dropped ≤ ending.length ∧
    ending[ending.length - rule.dropped]?.any (fun g => rule.added.head?.any fun a => !g.admits a) = true

instance (rule : PluralRule) : Decidable rule.Alters := inferInstanceAs (Decidable (_ ∨ _))

theorem alters_pluralRules : ∀ rule ∈ pluralRules, rule.Alters := by decide

/-- What the rule makes of a word is no beginning of the word but the whole. -/
theorem PluralRule.Alters.eq_of_prefix_self {rule : PluralRule} (hrule : rule.Alters) {word : List Char}
    (hfits : rule.fits word = true) (h : rule.apply word <+: word) : rule.apply word = word := by
  rcases hrule with hlength | hfirst
  · refine h.eq_of_length_le ?_
    rw [PluralRule.apply, List.length_append, List.length_take]
    omega
  · obtain ⟨ending, hending, hends⟩ := List.any_eq_true.1 hfits
    obtain ⟨hdropped, hdiffers⟩ := hfirst ending hending
    simp only [Option.any_eq_true, Bool.not_eq_true'] at hdiffers
    obtain ⟨g, hg, a, ha, hadmits⟩ := hdiffers
    obtain ⟨c, hc, hgc⟩ := admits_of_endsIn hends hg
    have hlength := length_le_of_endsIn hends
    have hplace : word.length - ending.length + (ending.length - rule.dropped) = word.length - rule.dropped := by omega
    obtain ⟨added, hadded⟩ : ∃ added, rule.added = a :: added := List.head?_eq_some_iff.1 ha
    -- where the two begin to differ the word has what the rule takes away
    obtain ⟨behind, happend⟩ := h
    have hsame : word[word.length - rule.dropped]? = some a := by
      nth_rewrite 1 [← happend]
      rw [PluralRule.apply, hadded, List.append_assoc, List.getElem?_append_right (List.length_take_le ..),
        List.length_take_of_le (Nat.sub_le ..), Nat.sub_self]
      rfl
    rw [← hplace, hc] at hsame
    rw [Option.some.inj hsame, hadmits] at hgc
    cases hgc

/-- The plural of a word is no beginning of the word but the whole. -/
theorem pluralWord_eq_of_prefix_self {word : List Char} (hword : ∀ c ∈ word, c.isLower = true)
    (h : pluralWord word <+: word) : pluralWord word = word := by
  have hirregular : ∀ e ∈ irregulars, e.1.toList.length ≤ e.2.toList.length := by decide
  rcases pluralWord_cases word with ⟨-, hplural⟩ | ⟨plural, hmem, hplural⟩ | ⟨rule, hrule, hfits, hplural⟩
  · exact hplural
  · have hlength := hirregular _ hmem
    rw [String.toList_ofList, lowerChars_of_isLower hword, ← hplural] at hlength
    exact h.eq_of_length_le hlength
  · rw [hplural] at h ⊢
    exact (alters_pluralRules rule hrule).eq_of_prefix_self hfits h

/-! ## Plurals laid along capitals -/

theorem mem_align {os ps : List Char} {c : Char} (h : c ∈ align os ps) : c ∈ os ∨ c ∈ ps := by
  fun_induction align os ps with grind

theorem align_map_toLower {w : List Char} (h : ∀ c ∈ w, InWord c) : align w (w.map Char.toLower) = w := by
  induction w with
  | nil => rw [List.map_nil, align]
  | cons c w ih =>
    rw [List.forall_mem_cons] at h
    rw [List.map_cons, align_toLower h.1, ih h.2]

/-- If lower-case letters laid along capitals leave nothing but capitals, they are the first of these. -/
theorem prefix_of_align_upper {os ps : List Char} (hos : ∀ o ∈ os, o.isUpper = true)
    (hps : ∀ p ∈ ps, p.isLower = true) (h : ∀ c ∈ align os ps, c.isUpper = true) : ps <+: os.map Char.toLower := by
  induction os generalizing ps with
  | nil =>
    rw [align] at h
    cases ps with
    | nil => exact List.nil_prefix
    | cons p ps =>
      have hp := isUpper_of_isLower (hps p List.mem_cons_self)
      rw [h p List.mem_cons_self] at hp
      cases hp
  | cons o os ih =>
    cases ps with
    | nil => exact List.nil_prefix
    | cons p ps =>
      rw [List.forall_mem_cons] at hos hps
      rw [align_letters (isAlpha_iff.2 (.inl hos.1)) hps.1, List.forall_mem_cons] at h
      have hsame : o.toLower = p := by
        by_contra hother
        rw [if_neg hother, isUpper_of_isLower hps.1] at h
        exact Bool.false_ne_true h.1
      rw [List.map_cons, hsame]
      exact List.cons_prefix_cons.2 ⟨rfl, ih hos.2 hps.2 h.2⟩

/-! ## The plural of the last word -/

/-- The plural of a word in the spelling of the word. -/
def spelledPlural (w : List Char) : List Char := align w (pluralWord (w.map Char.toLower))

/-- The plural of a word of letters begins as the word does, and has letters only. -/
theorem spelledPlural_cons {c : Char} {w : List Char} (h : ∀ d ∈ c :: w, d.isAlpha = true) :
    ∃ ps, spelledPlural (c :: w) = c :: align w ps ∧ pluralWord ((c :: w).map Char.toLower) = c.toLower :: ps ∧
      (∀ p ∈ ps, p.isLower = true) ∧ (w ≠ [] → ps ≠ []) ∧ ∀ d ∈ align w ps, d.isAlpha = true := by
  have hc : InWord c := .of_isAlpha (h c List.mem_cons_self)
  obtain ⟨ps, hplural, hps, hmore⟩ := pluralWord_cons (isLower_of_mem_map_toLower h)
  refine ⟨ps, ?_, hplural, hps, fun hne => hmore (by simpa using hne), fun d hd => ?_⟩
  · rw [spelledPlural, List.map_cons, hplural, align_toLower hc]
  · rcases mem_align hd with hd | hd
    · exact h d (List.mem_cons_of_mem c hd)
    · exact isAlpha_iff.2 (.inr (hps d hd))

/-- The plural of an acronym is one word only if it is the acronym or has one capital. -/
theorem whole_spelledPlural_iff {w : List Char} (hw : IsAcronym w) :
    Whole (spelledPlural w) ↔ spelledPlural w = w ∨ ∀ c ∈ (spelledPlural w).tail, c.isLower = true := by
  have hletters : ∀ c ∈ w, c.isAlpha = true := fun c hc => isAlpha_iff.2 (.inl (hw.2 c hc))
  have hne : w ≠ [] := by
    rintro rfl
    exact absurd hw.1 (by decide)
  obtain ⟨a, low, rfl⟩ := List.exists_cons_of_ne_nil hne
  have hinWord : ∀ c ∈ a :: low, InWord c := fun c hc => .of_isAlpha (hletters c hc)
  obtain ⟨ps, hplural, hword, hps, -, halpha⟩ := spelledPlural_cons hletters
  constructor
  · intro hwhole
    rw [hplural] at hwhole ⊢
    rcases hwhole.isAcronym_or (List.forall_mem_cons.2 ⟨hletters a List.mem_cons_self, halpha⟩) with
      hacronym | ⟨c, low', heq, hlow'⟩
    · -- nothing in lower case was put there, so nothing was put there
      have hprefix : pluralWord ((a :: low).map Char.toLower) <+: (a :: low).map Char.toLower := by
        rw [hword, List.map_cons]
        have hlow := prefix_of_align_upper (List.forall_mem_cons.1 hw.2).2 hps (List.forall_mem_cons.1 hacronym.2).2
        exact List.cons_prefix_cons.2 ⟨rfl, hlow⟩
      rw [← hplural, spelledPlural, pluralWord_eq_of_prefix_self (isLower_of_mem_map_toLower hletters) hprefix,
        align_map_toLower hinWord]
      exact .inl rfl
    · obtain ⟨-, htail⟩ := List.cons.inj heq
      exact .inr (htail ▸ hlow')
  · rintro (hself | hlow)
    · rw [hself]
      exact whole_of_upper hne hw.2
    · rw [hplural] at hlow ⊢
      exact whole_of_lower (hletters a List.mem_cons_self) hlow

/-- The plural of a word with one capital at most is one word. -/
theorem whole_spelledPlural {c : Char} {low : List Char} (hc : c.isAlpha = true) (hlow : ∀ d ∈ low, d.isLower = true) :
    Whole (spelledPlural (c :: low)) := by
  obtain ⟨ps, hplural, -, hps, -⟩ := spelledPlural_cons (List.forall_mem_cons.2
    ⟨hc, fun d hd => isAlpha_iff.2 (.inr (hlow d hd))⟩)
  rw [hplural, align_lower hlow hps]
  exact whole_of_lower hc hps

/-- The plural of a word begins where the word does. -/
theorem apart_spelledPlural {g w : List Char} (hwhole : Whole w) (hletters : ∀ c ∈ w, c.isAlpha = true)
    (h : Apart g w) : Apart g (spelledPlural w) := by
  obtain ⟨c, low, rfl⟩ := List.exists_cons_of_ne_nil hwhole.ne_nil
  obtain ⟨ps, hplural, -, hps, hmore, -⟩ := spelledPlural_cons hletters
  rw [hplural]
  refine apart_cons_congr h fun _ hnext => ?_
  rcases hwhole.isAcronym_or hletters with ⟨-, hupper⟩ | ⟨d, low', heq, hlow⟩
  · cases low with
    | nil => simp at hnext
    | cons d low =>
      rw [List.head?_cons, Option.any_some, isLower_of_isUpper (hupper d (by simp))] at hnext
      cases hnext
  · obtain ⟨rfl, rfl⟩ := List.cons.inj heq
    rw [align_lower hlow hps]
    have hne : low ≠ [] := by
      rintro rfl
      simp at hnext
    obtain ⟨p, ps, rfl⟩ := List.exists_cons_of_ne_nil (hmore hne)
    exact hps p List.mem_cons_self

/-! ## The words of a plural -/

/-- The plural of a word of letters has a word, and no other exactly if the word is no acronym, or one that is its own
plural or keeps its first capital only. -/
theorem length_words_spelledPlural {w : List Char} (hwhole : Whole w) (hletters : ∀ c ∈ w, c.isAlpha = true) :
    1 ≤ (words (spelledPlural w)).length ∧ ((words (spelledPlural w)).length = 1 ↔
      (IsAcronym w → spelledPlural w = w ∨ ∀ c ∈ (spelledPlural w).tail, c.isLower = true)) := by
  obtain ⟨c, low, rfl⟩ := List.exists_cons_of_ne_nil hwhole.ne_nil
  obtain ⟨ps, hplural, -, -, -, halpha⟩ := spelledPlural_cons hletters
  have hsep : ∀ d ∈ spelledPlural (c :: low), isSeparator d = false := by
    rw [hplural, List.forall_mem_cons]
    exact ⟨hwhole.no_separator c List.mem_cons_self, fun d hd => isSeparator_of_letter (isAlpha_iff.1 (halpha d hd))⟩
  obtain ⟨hone, hiff⟩ := length_words_of_no_separator (hplural ▸ List.cons_ne_nil c _) hsep
  refine ⟨hone, hiff.trans ?_⟩
  rcases hwhole.isAcronym_or hletters with hacronym | ⟨d, low', heq, hlow⟩
  · rw [whole_spelledPlural_iff hacronym]
    exact ⟨fun h _ => h, fun h => h hacronym⟩
  · obtain ⟨rfl, rfl⟩ := List.cons.inj heq
    exact ⟨fun _ hacronym => absurd hacronym (not_isAcronym_of_lower hlow),
      fun _ => whole_spelledPlural (hletters c List.mem_cons_self) hlow⟩

/-- What stands in front of the last word is left as it is. -/
theorem align_inflectChars_spelledPlural {g w : List Char} (hascii : ∀ c ∈ g ++ w, c.toNat < 128) (hwhole : Whole w)
    (h : Apart g w) : align (g ++ w) (inflectChars (snakeChars (g ++ w))) = g ++ spelledPlural w := by
  have hwords : words (g ++ w) = words g ++ [w] := by rw [words_append h, hwhole.words_eq]
  exact (align_inflectChars_append hwords hwhole.ne_nil hascii).2

/-- The plural of an identifier that ends in a letter has the words in front of the last one and those of the plural of
that one. There are never fewer of them, and as many exactly if the last word is no acronym, or one that is its own
plural or keeps its first capital only. -/
theorem length_splitWords_pluralize (s : String) (hs : IsIdentifier s.toList)
    (hlast : ∃ z ∈ s.toList.getLast?, z.isAlpha = true) :
    ∃ ws w, splitWords s = ws ++ [w] ∧ splitWords (pluralize s) = ws ++ splitWords (pluralize w) ∧
      (splitWords s).length ≤ (splitWords (pluralize s)).length ∧
      ((splitWords (pluralize s)).length = (splitWords s).length ↔
        (IsAcronym w.toList → pluralize w = w ∨ ∀ c ∈ (pluralize w).toList.tail, c.isLower = true)) := by
  obtain ⟨g, w, hsplit, hwhole, hapart, hletters⟩ := exists_letters_word hs hlast
  have hascii : ∀ c ∈ g ++ w, c.toNat < 128 := hsplit ▸ hs.ascii
  have hplural : (pluralize s).toList = g ++ spelledPlural w := by
    rw [toList_pluralize, hsplit, align_inflectChars_spelledPlural hascii hwhole hapart]
  have hself : (pluralize (String.ofList w)).toList = spelledPlural w := by
    rw [toList_pluralize, String.toList_ofList]
    exact align_inflectChars_spelledPlural (g := []) (fun c hc => hascii c (List.mem_append_right g hc)) hwhole
      (apart_nil_left w)
  have hsingular : splitWords s = (words g).map String.ofList ++ [String.ofList w] := by
    rw [splitWords, hsplit, words_append hapart, hwhole.words_eq, List.map_append, List.map_singleton]
  have hwords : splitWords (pluralize s) = (words g).map String.ofList ++ splitWords (pluralize (String.ofList w)) := by
    rw [splitWords, hplural, words_append (apart_spelledPlural hwhole hletters hapart), List.map_append, splitWords,
      hself]
  obtain ⟨hone, hiff⟩ := length_words_spelledPlural hwhole hletters
  have hlength : (splitWords (pluralize (String.ofList w))).length = (words (spelledPlural w)).length := by
    rw [splitWords, List.length_map, hself]
  have hsame : pluralize (String.ofList w) = String.ofList w ↔ spelledPlural w = w := by
    rw [← String.toList_inj, hself, String.toList_ofList]
  refine ⟨_, _, hsingular, hwords, ?_, ?_⟩
  · rw [hsingular, hwords, List.length_append, List.length_append, hlength]
    exact Nat.add_le_add_left hone _
  · rw [hsingular, hwords, List.length_append, List.length_append, hlength, List.length_singleton,
      Nat.add_left_cancel_iff, hiff, hsame, hself, String.toList_ofList]

/-- An acronym that is its own plural. -/
theorem length_splitWords_pluralize_gps :
    IsIdentifier "my2GPS".toList ∧ (∃ z ∈ "my2GPS".toList.getLast?, z.isAlpha = true) ∧ IsAcronym "GPS".toList ∧
      pluralize "GPS" = "GPS" ∧ splitWords (pluralize "my2GPS") = ["my", "2", "GPS"] := by
  have hs : IsIdentifier "my2GPS".toList := by decide
  have hlast : ∃ z ∈ "my2GPS".toList.getLast?, z.isAlpha = true := ⟨'S', by decide, by decide⟩
  have hself : pluralize "GPS" = "GPS" := by
    have hplural : inflectChars (snakeChars "GPS".toList) = "GPS".toList.map Char.toLower := by decide
    rw [← String.toList_inj, toList_pluralize, hplural]
    exact align_map_toLower fun c hc => .of_isAlphanum (List.all_eq_true.1 (by decide) c hc)
  obtain ⟨ws, w, hsingular, hplural, -, hsame⟩ := length_splitWords_pluralize "my2GPS" hs hlast
  have hwords : splitWords "my2GPS" = ["my", "2"] ++ ["GPS"] := by decide
  obtain ⟨rfl, hw⟩ := List.append_inj' (hsingular.symm.trans hwords) rfl
  obtain rfl := List.singleton_inj.1 hw
  refine ⟨hs, hlast, by decide, hself, ?_⟩
  rw [hplural, hself]
  decide

/-- The plural of an acronym that takes an `s` has a word more. -/
theorem splitWords_pluralize_userID :
    (∀ c ∈ "userID".toList, c.isAlphanum = true) ∧ (∃ a ∈ "userID".toList.head?, a.isAlpha = true) ∧
      (∃ z ∈ "userID".toList.getLast?, z.isAlpha = true) ∧
      splitWords "userID" = ["user", "ID"] ∧ pluralize "userID" = "userIDs" ∧
      splitWords (pluralize "userID") = ["user", "I", "Ds"] ∧
      (splitWords (pluralize "userID")).length ≠ (splitWords "userID").length := by
  have hplural : pluralize "userID" = "userIDs" := by
    have hinflect : inflectChars (snakeChars "userID".toList) = snakeChars "userID".toList ++ ['s'] := by decide
    rw [← String.toList_inj, toList_pluralize, hinflect]
    exact align_snakeChars_append (by simp) (by simp) fun c hc => .of_isAlphanum (List.all_eq_true.1 (by decide) c hc)
  have hwords : splitWords "userID" = ["user", "ID"] := by decide
  have hmore : splitWords (pluralize "userID") = ["user", "I", "Ds"] := by
    rw [hplural]
    decide
  refine ⟨List.all_eq_true.1 (by decide), ⟨'u', by decide, by decide⟩, ⟨'D', by decide, by decide⟩, hwords, hplural,
    hmore, ?_⟩
  rw [hmore, hwords]
  decide

end Stencil.Text
