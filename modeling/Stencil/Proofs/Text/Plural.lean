import Stencil.Proofs.Text.Inflection
import Stencil.Proofs.Text.Trimming
import Stencil.Text.Plural
/-!
# What the plural keeps of an identifier

The phrase of an identifier has its words in lower case with underscores between them, so the identifier `Spells` the
phrase, with separators in front of its words and behind the last one. The plural changes an ending of letters to
another one (`inflectChars_eq`). Up to that ending, laying the plural along the identifier gives the identifier back
(`exists_align_letters`); from there on it gives letters, and then the separators at the end, if the plural has a letter
left when it comes to them. It has if it is longer than the phrase, and otherwise they are lost (`marks_pluralize`).
-/

namespace Stencil.Text

/-! ## ASCII -/

/-- A character of ASCII that can stand in a word. -/
structure InWord (c : Char) : Prop where
  ascii : c.toNat < 128
  no_separator : isSeparator c = false

theorem InWord.toLower {c : Char} (h : InWord c) : InWord c.toLower :=
  ⟨(toLower_of_ascii h.ascii).1, by rw [(toLower_of_ascii h.ascii).2.1, h.no_separator]⟩

theorem InWord.ne_underscore {c : Char} (h : InWord c) : c ≠ '_' := by
  rintro rfl
  exact absurd h.no_separator (by decide)

theorem InWord.of_isAlphanum {c : Char} (h : c.isAlphanum = true) : InWord c := by
  constructor
  · change (c.isUpper || c.isLower || c.isDigit) = true at h
    simp only [Bool.or_eq_true, isUpper_iff_toNat, isLower_iff_toNat, isDigit_iff_toNat] at h
    omega
  · rw [Bool.eq_false_iff]
    intro hsep
    simp only [isSeparator, Bool.or_eq_true, beq_iff_eq] at hsep
    rcases hsep with (rfl | rfl) | rfl <;> exact absurd h (by decide)

/-- The separators are `_`, the blank and the exclamation mark. -/
theorem of_isSeparator {c : Char} (h : isSeparator c = true) : c.toNat < 128 ∧ c.isAlphanum = false := by
  simp only [isSeparator, Bool.or_eq_true, beq_iff_eq] at h
  rcases h with (rfl | rfl) | rfl <;> decide

theorem isAlphanumeric_of_ascii {c : Char} (h : c.toNat < 128) : isAlphanumeric c = c.isAlphanum := if_pos h

/-- No letter of a word is a separator in another case. -/
theorem lowerChar_separator_ne {s c : Char} (hs : isSeparator s = true) (hc : InWord c) :
    lowerChar s ≠ lowerChar c := by
  have hascii := (of_isSeparator hs).1
  rw [lowerChar_of_ascii hascii, lowerChar_of_ascii hc.ascii]
  intro h
  have hsame := congrArg isSeparator (List.cons.inj h).1
  rw [(toLower_of_ascii hascii).2.1, (toLower_of_ascii hc.ascii).2.1, hs, hc.no_separator] at hsame
  cases hsame

/-! ## Laying a phrase along a text -/

section align

variable {o p : Char} {os ps ls : List Char}

theorem align_nil (cs : List Char) : align cs [] = [] := by
  cases cs <;> rw [align]

theorem align_same (h : lowerChar o = lowerChar p) : align (o :: os) (p :: ps) = o :: align os ps := by
  rw [align, if_pos h]

theorem align_underscore (h : lowerChar o ≠ lowerChar '_') : align (o :: os) ('_' :: ps) = align (o :: os) ps := by
  rw [align, if_neg h, if_pos rfl]

theorem align_toLower (ho : InWord o) (os ps : List Char) : align (o :: os) (o.toLower :: ps) = o :: align os ps := by
  apply align_same
  rw [lowerChar_of_ascii ho.ascii, lowerChar_of_ascii ho.toLower.ascii, (toLower_of_ascii ho.ascii).2.2.2]

/-- Of two letters the one of the phrase is taken. -/
theorem align_letter (h : lowerChar o ≠ lowerChar p) (hp : p ≠ '_') (ho : isAlphanumeric o = true) :
    align (o :: os) (p :: ps) = p :: align os ps := by
  rw [align, if_neg h, if_neg hp, ho]
  rfl

/-- Separators are kept in front of a letter. -/
theorem align_separators (hls : ∀ s ∈ ls, isSeparator s = true) (hp : InWord p) (os ps : List Char) :
    align (ls ++ os) (p :: ps) = ls ++ align os (p :: ps) := by
  induction ls with
  | nil => rfl
  | cons s ls ih =>
    rw [List.forall_mem_cons] at hls
    obtain ⟨hascii, hmark⟩ := of_isSeparator hls.1
    rw [List.cons_append, align, if_neg (lowerChar_separator_ne hls.1 hp), if_neg hp.ne_underscore, if_pos, ih hls.2,
      List.cons_append]
    rw [isAlphanumeric_of_ascii hascii, hmark]
    rfl

/-- What is added to separators goes behind them. -/
theorem align_behind (hls : ∀ s ∈ ls, isSeparator s = true) (hne : ps ≠ []) (hps : ∀ p ∈ ps, InWord p) :
    align ls ps = ls ++ ps := by
  obtain ⟨p, ps, rfl⟩ := List.exists_cons_of_ne_nil hne
  have halign := align_separators hls (hps p List.mem_cons_self) [] ps
  rwa [List.append_nil, align] at halign

/-- An underscore of the phrase makes no difference in front of a word. -/
theorem align_word (hls : ∀ s ∈ ls, isSeparator s = true) (ho : InWord o) (hp : InWord p) (os ps : List Char) :
    align (ls ++ o :: os) ('_' :: p :: ps) = ls ++ align (o :: os) (p :: ps) := by
  cases ls with
  | nil => exact align_underscore (lowerChar_separator_ne rfl ho).symm
  | cons s ls =>
    by_cases hs : s = '_'
    · rw [List.forall_mem_cons] at hls
      rw [hs, List.cons_append, align_same rfl, align_separators hls.2 hp]
      rfl
    · have hne : lowerChar s ≠ lowerChar '_' := by
        have hcases := hls s List.mem_cons_self
        simp only [isSeparator, Bool.or_eq_true, beq_iff_eq] at hcases
        rcases hcases with (rfl | rfl) | rfl
        · decide
        · exact absurd rfl hs
        · decide
      rw [List.cons_append, align_underscore hne, ← List.cons_append, align_separators hls hp]

end align

/-! ## The phrase of a text -/

/-- The text is made of the words of the phrase, which are lowered there and have an underscore in front, and of
separators in front of words and at the end. It may begin within a word. -/
inductive Spells : List Char → List Char → Prop
  | nil {ls : List Char} (hls : ∀ s ∈ ls, isSeparator s = true) : Spells ls []
  | letter {c : Char} {cs ps : List Char} (hc : InWord c) (h : Spells cs ps) : Spells (c :: cs) (c.toLower :: ps)
  | word {ls : List Char} {c : Char} {cs ps : List Char} (hls : ∀ s ∈ ls, isSeparator s = true) (hc : InWord c)
      (h : Spells cs ps) : Spells (ls ++ c :: cs) ('_' :: c.toLower :: ps)

/-- Words in lower case, with an underscore in front of each. -/
def underscored (ws : List (List Char)) : List Char := ws.flatMap fun w => '_' :: w.map Char.toLower

/-- A text that begins within a word begins with one as well, and separators can stand in front. -/
theorem Spells.underscored_cons {cs p : List Char} {ps : List (List Char)}
    (h : Spells cs (p.map Char.toLower ++ underscored (nonempty ps))) (hp : ∀ c ∈ p, InWord c) (ls : List Char)
    (hls : ∀ s ∈ ls, isSeparator s = true) : Spells (ls ++ cs) (underscored (nonempty (p :: ps))) := by
  cases p with
  | nil =>
    have hbegins : ∀ c q, underscored (nonempty ps) = c :: q → c = '_' := by
      intro c q heq
      cases hws : nonempty ps with
      | nil =>
        rw [hws] at heq
        cases heq
      | cons w ws =>
        rw [hws] at heq
        exact (List.cons.inj heq).1.symm
    rw [nonempty_nil_cons]
    simp only [List.map_nil, List.nil_append] at h
    generalize underscored (nonempty ps) = phrase at h hbegins
    cases h with
    | nil hmore => exact .nil (List.forall_mem_append.2 ⟨hls, hmore⟩)
    | letter hc => exact absurd (hbegins _ _ rfl) hc.toLower.ne_underscore
    | word hmore hc h =>
      rw [← List.append_assoc]
      exact .word (List.forall_mem_append.2 ⟨hls, hmore⟩) hc h
  | cons c p =>
    have hc := hp c List.mem_cons_self
    have hphrase : underscored (nonempty ((c :: p) :: ps)) =
        '_' :: c.toLower :: (p.map Char.toLower ++ underscored (nonempty ps)) := by
      simp [underscored]
    rw [hphrase]
    simp only [List.map_cons, List.cons_append] at h
    generalize p.map Char.toLower ++ underscored (nonempty ps) = rest at h
    generalize hhead : c.toLower = head at h
    cases h with
    | letter hc' h => exact .word hls hc' h
    | word => exact absurd hhead hc.toLower.ne_underscore

theorem inWord_of_mem_segments {cs : List Char} (h : ∀ c ∈ cs, c.toNat < 128) {piece : List Char}
    (hpiece : piece ∈ segments cs) {c : Char} (hc : c ∈ piece) : InWord c := by
  have hmem : c ∈ (segments cs).flatten := List.mem_flatten.2 ⟨piece, hpiece, hc⟩
  rw [flatten_segments, List.mem_filter, Bool.not_eq_true'] at hmem
  exact ⟨h c hmem.1, hmem.2⟩

theorem spells_segments {cs : List Char} (h : ∀ c ∈ cs, c.toNat < 128) :
    ∀ p ps, segments cs = p :: ps → Spells cs (p.map Char.toLower ++ underscored (nonempty ps)) := by
  induction cs with
  | nil =>
    intro p ps hpieces
    cases hpieces
    exact .nil (by simp)
  | cons a rest ih =>
    rw [List.forall_mem_cons] at h
    obtain ⟨q, qs, hq⟩ := List.exists_cons_of_ne_nil (segments_ne_nil rest)
    have hrest := ih h.2 q qs hq
    have hword : ∀ c ∈ q, InWord c := fun c => inWord_of_mem_segments h.2 (hq ▸ List.mem_cons_self)
    intro p ps hpieces
    unfold segments at hpieces
    cases hsep : isSeparator a with
    | true =>
      rw [hsep, if_pos rfl, hq] at hpieces
      cases hpieces
      exact hrest.underscored_cons hword [a] (by simpa using hsep)
    | false =>
      rw [hsep, if_neg Bool.false_ne_true, hq] at hpieces
      have ha : InWord a := ⟨h.1, hsep⟩
      split at hpieces
      · cases hpieces
        exact .letter ha (hrest.underscored_cons hword [] (by simp))
      · cases hpieces
        exact .letter ha hrest

theorem cons_intercalate {ws : List (List Char)} (h : ws ≠ []) :
    '_' :: ['_'].intercalate ws = ws.flatMap ('_' :: ·) := by
  induction ws with
  | nil => exact absurd rfl h
  | cons w ws ih =>
    cases ws with
    | nil => simp
    | cons v ws =>
      have hws := ih (List.cons_ne_nil v ws)
      rw [List.flatMap_cons, ← hws]
      simp [List.intercalate]

/-- A text spells its words. -/
theorem spells_words {cs : List Char} (h : ∀ c ∈ cs, c.toNat < 128) : Spells cs (underscored (words cs)) := by
  obtain ⟨p, ps, hpieces⟩ := List.exists_cons_of_ne_nil (segments_ne_nil cs)
  rw [words_eq, hpieces]
  refine (spells_segments h p ps hpieces).underscored_cons (fun c => ?_) [] (by simp)
  exact inWord_of_mem_segments h (hpieces ▸ List.mem_cons_self)

/-- The phrase is what a text spells, but for the first underscore. -/
theorem underscored_words {cs : List Char} (h : ∀ c ∈ cs, c.toNat < 128) (hne : words cs ≠ []) :
    underscored (words cs) = '_' :: snakeChars cs := by
  have hascii : ∀ c ∈ '_' :: ['_'].intercalate (words cs), c.toNat < 128 := by
    rw [cons_intercalate hne]
    intro c hc
    obtain ⟨w, hw, hc⟩ := List.mem_flatMap.1 hc
    rcases List.mem_cons.1 hc with rfl | hc
    · decide
    · exact h c (mem_of_mem_words hw hc).1
  have hlower : underscored (words cs) = ('_' :: ['_'].intercalate (words cs)).map Char.toLower := by
    rw [cons_intercalate hne, List.map_flatMap]
    rfl
  rw [hlower, snakeChars, lowerChars_of_ascii fun c hc => hascii c (List.mem_cons_of_mem _ hc), List.map_cons]
  rfl

/-! ## Up to the ending -/

/-- The text has the letters of an ending of its phrase, in whatever case, behind the front, and nothing but
separators behind them. -/
structure SpellsEnding (cs front word behind ending : List Char) : Prop where
  eq : cs = front ++ (word ++ behind)
  lowered : word.map Char.toLower = ending
  inWord : ∀ c ∈ word, InWord c
  separators : ∀ s ∈ behind, isSeparator s = true

/-- What spells letters of one word are those letters, and separators behind them. -/
theorem Spells.ends {cs ending : List Char} (h : Spells cs ending) (hending : '_' ∉ ending) :
    ∃ k t, SpellsEnding cs [] k t ending := by
  induction h with
  | nil hls => exact ⟨[], _, rfl, rfl, by simp, hls⟩
  | letter hc _ ih =>
    rw [List.mem_cons, not_or] at hending
    obtain ⟨k, t, rfl, hk, hword, ht⟩ := ih hending.2
    refine ⟨_ :: k, t, rfl, by rw [List.map_cons, hk], ?_, ht⟩
    exact List.forall_mem_cons.2 ⟨hc, hword⟩
  | word => simp at hending

section SpellsEnding

variable {cs front word behind ending : List Char}

theorem SpellsEnding.append (h : SpellsEnding cs front word behind ending) (ls : List Char) :
    SpellsEnding (ls ++ cs) (ls ++ front) word behind ending :=
  ⟨by rw [h.eq, List.append_assoc], h.lowered, h.inWord, h.separators⟩

theorem SpellsEnding.isAlphanum (h : SpellsEnding cs front word behind ending)
    (hending : ∀ c ∈ ending, c.isAlphanum = true) : ∀ c ∈ word, c.isAlphanum = true := by
  intro c hc
  rw [← (toLower_of_ascii (h.inWord c hc).ascii).2.2.1]
  exact hending _ (h.lowered ▸ List.mem_map_of_mem hc)

theorem SpellsEnding.rdropWhile_eq (h : SpellsEnding cs front word behind ending) (hne : word ≠ []) :
    cs.rdropWhile isSeparator = front ++ word := by
  obtain ⟨init, c, rfl⟩ := (List.eq_nil_or_concat' word).resolve_left hne
  have hc := (h.inWord c (by simp)).no_separator
  have hcs : cs = (front ++ init) ++ c :: behind := by simp [h.eq]
  rw [hcs, rdropWhile_append_cons hc, List.rdropWhile_eq_nil_iff.2 h.separators, List.append_assoc]

end SpellsEnding

/-- The text is given back up to the ending, whatever letters come instead of that. -/
theorem Spells.align_eq {cs stem ending : List Char} (h : Spells cs (stem ++ ending)) (hending : '_' ∉ ending)
    {a : Char} (ha : InWord a) (as : List Char) :
    ∃ g k t, SpellsEnding cs g k t ending ∧ align cs (stem ++ a :: as) = g ++ align (k ++ t) (a :: as) := by
  generalize hphrase : stem ++ ending = phrase at h
  induction h generalizing stem with
  | nil hls =>
    obtain ⟨rfl, rfl⟩ := List.append_eq_nil_iff.1 hphrase
    exact ⟨[], [], _, ⟨rfl, rfl, by simp, hls⟩, rfl⟩
  | @letter c cs ps hc h ih =>
    cases stem with
    | nil =>
      obtain rfl : ending = c.toLower :: ps := hphrase
      obtain ⟨k, t, hends⟩ := Spells.ends (.letter hc h) hending
      exact ⟨[], k, t, hends, by rw [hends.eq]; rfl⟩
    | cons p stem =>
      obtain ⟨rfl, hrest⟩ := List.cons.inj hphrase
      obtain ⟨g, k, t, hends, halign⟩ := ih hrest
      refine ⟨c :: g, k, t, hends.append [c], ?_⟩
      rw [List.cons_append, align_toLower hc, halign, List.cons_append]
  -- the stem may end with the underscore in front of the word, when all of the word is replaced
  | @word ls c cs ps hls hc h ih =>
    cases stem with
    | nil =>
      rw [List.nil_append] at hphrase
      simp [hphrase] at hending
    | cons p stem =>
      obtain ⟨rfl, hword⟩ := List.cons.inj hphrase
      cases stem with
      | nil =>
        obtain rfl : ending = c.toLower :: ps := hword
        obtain ⟨k, t, hends⟩ := Spells.ends (.letter hc h) hending
        refine ⟨ls ++ [], k, t, hends.append ls, ?_⟩
        have heq : c :: cs = k ++ t := hends.eq
        rw [← heq, List.append_nil]
        exact align_word hls hc ha cs as
      | cons q stem =>
        obtain ⟨rfl, hrest⟩ := List.cons.inj hword
        obtain ⟨g, k, t, hends, halign⟩ := ih hrest
        refine ⟨ls ++ c :: g, k, t, (hends.append [c]).append ls, ?_⟩
        rw [List.cons_append, List.cons_append, align_word hls hc hc.toLower, align_toLower hc, halign,
          List.append_assoc, List.cons_append]

/-! ## From the ending on -/

/-- What is left of a text without its letters and digits. -/
def marks (cs : List Char) : List Char := cs.filter (!·.isAlphanum)

theorem marks_append (cs ds : List Char) : marks (cs ++ ds) = marks cs ++ marks ds := List.filter_append ..

theorem marks_cons_of_isAlphanum {c : Char} (h : c.isAlphanum = true) (cs : List Char) : marks (c :: cs) = marks cs :=
  List.filter_cons_of_neg (by simp [h])

theorem marks_eq_nil {cs : List Char} (h : ∀ c ∈ cs, c.isAlphanum = true) : marks cs = [] := by
  rw [marks, List.filter_eq_nil_iff]
  intro c hc
  simp [h c hc]

theorem marks_of_separators {ls : List Char} (h : ∀ s ∈ ls, isSeparator s = true) : marks ls = ls := by
  rw [marks, List.filter_eq_self]
  intro s hs
  rw [(of_isSeparator (h s hs)).2]
  rfl

/-- Separators behind an ending come through if what is put in its place is longer. -/
theorem marks_align_ending {k t added : List Char} (hk : ∀ c ∈ k, c.isAlphanum = true)
    (ht : ∀ s ∈ t, isSeparator s = true) (hadded : ∀ c ∈ added, c.isAlphanum = true) :
    marks (align (k ++ t) added) = if k.length < added.length then t else [] := by
  induction k generalizing added with
  | nil =>
    cases added with
    | nil => rw [align_nil]; rfl
    | cons a as =>
      have halign := align_behind ht (List.cons_ne_nil a as) fun c hc => .of_isAlphanum (hadded c hc)
      rw [List.nil_append, halign, marks_append, marks_of_separators ht, marks_eq_nil hadded, List.append_nil]
      simp
  | cons c k ih =>
    rw [List.forall_mem_cons] at hk
    cases added with
    | nil => rw [align_nil]; rfl
    | cons a as =>
      rw [List.forall_mem_cons] at hadded
      have hword := InWord.of_isAlphanum hk.1
      have hrest := ih hk.2 hadded.2
      have hletter : isAlphanumeric c = true := by rw [isAlphanumeric_of_ascii hword.ascii, hk.1]
      have hne := (InWord.of_isAlphanum hadded.1).ne_underscore
      simp only [List.length_cons, Nat.add_lt_add_iff_right]
      rw [← hrest, List.cons_append]
      by_cases hsame : lowerChar c = lowerChar a
      · rw [align_same hsame]
        exact marks_cons_of_isAlphanum hk.1 _
      · rw [align_letter hsame hne hletter]
        exact marks_cons_of_isAlphanum hadded.1 _

/-! ## The first word of a phrase -/

theorem Spells.ascii {cs ps : List Char} (h : Spells cs ps) : ∀ p ∈ ps, p.toNat < 128 := by
  induction h with
  | nil => simp
  | letter hc _ ih => exact List.forall_mem_cons.2 ⟨hc.toLower.ascii, ih⟩
  | word _ hc _ ih => exact List.forall_mem_cons.2 ⟨by decide, List.forall_mem_cons.2 ⟨hc.toLower.ascii, ih⟩⟩

/-- The phrase has no underscore in front of its first word, which makes no difference. -/
theorem Spells.align_of_cons {cs phrase : List Char} (h : Spells cs ('_' :: phrase)) {p : Char} (hp : InWord p)
    (ps : List Char) : align cs (p :: ps) = align cs ('_' :: p :: ps) := by
  generalize hphrase : '_' :: phrase = text at h
  cases h with
  | nil => cases hphrase
  | letter hc => exact absurd (List.cons.inj hphrase).1.symm hc.toLower.ne_underscore
  | word hls hc => rw [align_word hls hc hp, align_separators hls hp]

theorem Spells.inWord_head {cs phrase : List Char} (h : Spells cs ('_' :: phrase)) :
    ∃ p ps, phrase = p :: ps ∧ InWord p := by
  generalize hphrase : '_' :: phrase = text at h
  cases h with
  | nil => cases hphrase
  | letter hc => exact absurd (List.cons.inj hphrase).1.symm hc.toLower.ne_underscore
  | word _ hc => exact ⟨_, _, (List.cons.inj hphrase).2, hc.toLower⟩

/-! ## The phrase of a text in another form -/

theorem isSeparator_of_words_eq_nil {cs : List Char} (h : words cs = []) : ∀ c ∈ cs, isSeparator c = true := by
  have hflat := flatten_words cs
  rw [h, List.flatten_nil, eq_comm, List.filter_eq_nil_iff] at hflat
  intro c hc
  simpa using hflat c hc

theorem snakeChars_of_words_eq_nil {cs : List Char} (h : words cs = []) : snakeChars cs = [] := by
  rw [snakeChars, h]
  rfl

theorem spells_snakeChars {cs : List Char} (h : ∀ c ∈ cs, c.toNat < 128) (hwords : words cs ≠ []) :
    Spells cs ('_' :: snakeChars cs) := by
  rw [← underscored_words h hwords]
  exact spells_words h

/-- A phrase that has other letters in the place of an ending gives the text back up to that ending. -/
theorem exists_align_snakeChars {cs stem ending added : List Char} (h : ∀ c ∈ cs, c.toNat < 128)
    (hphrase : snakeChars cs = stem ++ ending) (hending : '_' ∉ ending) (hadded : added ≠ [])
    (hmore : ∀ c ∈ added, InWord c) :
    ∃ g k t, SpellsEnding cs g k t ending ∧ align cs (stem ++ added) = g ++ align (k ++ t) added := by
  by_cases hwords : words cs = []
  · rw [snakeChars_of_words_eq_nil hwords, eq_comm] at hphrase
    obtain ⟨rfl, rfl⟩ := List.append_eq_nil_iff.1 hphrase
    exact ⟨[], [], cs, ⟨rfl, rfl, by simp, isSeparator_of_words_eq_nil hwords⟩, rfl⟩
  · obtain ⟨a, as, rfl⟩ := List.exists_cons_of_ne_nil hadded
    have ha := hmore a List.mem_cons_self
    have hspells := spells_snakeChars h hwords
    obtain ⟨p, ps, hhead, hp⟩ := hspells.inWord_head
    rw [hphrase, ← List.cons_append] at hspells
    obtain ⟨g, k, t, hends, halign⟩ := hspells.align_eq hending ha as
    refine ⟨g, k, t, hends, ?_⟩
    rw [← halign]
    -- the phrase begins with a letter, be it one of the stem or the first new one
    cases stem with
    | nil => exact hspells.align_of_cons ha as
    | cons q stem =>
      obtain ⟨rfl, -⟩ := List.cons.inj (hphrase.symm.trans hhead)
      exact hspells.align_of_cons hp (stem ++ a :: as)

/-- The same where the letters and digits of an ending are changed into others. -/
theorem exists_align_letters {cs stem ending added : List Char} (h : ∀ c ∈ cs, c.toNat < 128)
    (hphrase : snakeChars cs = stem ++ ending) (hending : ∀ c ∈ ending, c.isAlphanum = true) (hadded : added ≠ [])
    (hmore : ∀ c ∈ added, c.isAlphanum = true) :
    ∃ g k t, SpellsEnding cs g k t ending ∧ (∀ c ∈ k, c.isAlphanum = true) ∧
      align cs (stem ++ added) = g ++ align (k ++ t) added := by
  have hunderscore : '_' ∉ ending := fun hmem => absurd (hending _ hmem) (by decide)
  obtain ⟨g, k, t, hends, halign⟩ :=
    exists_align_snakeChars h hphrase hunderscore hadded fun c hc => .of_isAlphanum (hmore c hc)
  exact ⟨g, k, t, hends, hends.isAlphanum hending, halign⟩

/-- The plural of a phrase has letters in the place of letters at its end. -/
theorem inflected_snakeChars {cs : List Char} (h : ∀ c ∈ cs, c.toNat < 128) (hwords : words cs ≠ []) :
    Inflected (snakeChars cs) (inflectChars (snakeChars cs)) := by
  have hspells := spells_snakeChars h hwords
  obtain ⟨p, ps, hhead, -⟩ := hspells.inWord_head
  exact inflectChars_eq (fun c hc => hspells.ascii c (List.mem_cons_of_mem _ hc)) (by simp [hhead])

/-! ## The marks of the plural -/

/-- The separators at the end are marks, so a text without them has fewer. -/
theorem marks_rdropWhile_eq_iff {cs : List Char} :
    marks (cs.rdropWhile isSeparator) = marks cs ↔ ∀ c ∈ cs.getLast?, isSeparator c = false := by
  constructor
  · intro hmarks c hc
    obtain ⟨init, rfl⟩ := List.getLast?_eq_some_iff.1 hc
    rw [Bool.eq_false_iff]
    intro hsep
    rw [List.rdropWhile_concat_pos _ _ _ hsep] at hmarks
    have hmark : marks [c] = [c] := marks_of_separators (by simpa using hsep)
    have hle : (marks (init.rdropWhile isSeparator)).length ≤ (marks init).length :=
      ((List.rdropWhile_prefix isSeparator init).sublist.filter _).length_le
    rw [hmarks, marks_append, hmark, List.length_append, List.length_singleton] at hle
    omega
  · intro hlast
    rw [rdropWhile_eq_iff.2 hlast]

/-- Laying the plural along the text keeps all marks if it is longer than the phrase, and otherwise all but the
separators at the end. -/
theorem marks_align_inflectChars {cs : List Char} (h : ∀ c ∈ cs, c.toNat < 128) :
    marks (align cs (inflectChars (snakeChars cs))) =
      if (snakeChars cs).length < (inflectChars (snakeChars cs)).length then marks cs
      else marks (cs.rdropWhile isSeparator) := by
  by_cases hwords : words cs = []
  · have hplural : inflectChars [] = [] := rfl
    rw [snakeChars_of_words_eq_nil hwords, hplural, align_nil, if_neg (Nat.lt_irrefl _),
      List.rdropWhile_eq_nil_iff.2 (isSeparator_of_words_eq_nil hwords)]
  · obtain ⟨stem, ending, added, hphrase, hplural, hadded, hletters, hmore⟩ := inflected_snakeChars h hwords
    obtain ⟨g, k, t, hends, hk, halign⟩ := exists_align_letters h hphrase hletters hadded hmore
    have hlength : (snakeChars cs).length < (inflectChars (snakeChars cs)).length ↔ k.length < added.length := by
      rw [hplural, hphrase, ← hends.lowered]
      simp
    rw [if_congr hlength rfl rfl, hplural, halign, marks_append, marks_align_ending hk hends.separators hmore]
    split
    · rw [hends.eq, marks_append, marks_append, marks_eq_nil hk, marks_of_separators hends.separators, List.nil_append]
    · next hshort =>
      -- something is added, so as much at least was taken away
      have hkne : k ≠ [] := by
        rintro rfl
        exact hshort (List.length_pos_iff.2 hadded)
      rw [hends.rdropWhile_eq hkne, marks_append, marks_eq_nil hk]

/-- The plural of an identifier in ASCII keeps all its marks if it is longer than the singular, in the form of phrases,
and otherwise loses the separators at the end. So it keeps them unless the identifier ends in a separator and its last
word is no shorter than the plural. -/
theorem marks_pluralize (s : String) (h : ∀ c ∈ s.toList, c.toNat < 128) :
    marks (pluralize s).toList =
        (if (snakecase s).toList.length < (inflect (snakecase s)).toList.length then marks s.toList
        else marks (s.toList.rdropWhile isSeparator)) ∧
      (marks (pluralize s).toList = marks s.toList ↔
        (snakecase s).toList.length < (inflect (snakecase s)).toList.length ∨
          ∀ c ∈ s.toList.getLast?, isSeparator c = false) := by
  have hmarks := marks_align_inflectChars h
  have htext : (pluralize s).toList = align s.toList (inflectChars (snakeChars s.toList)) := by
    simp [pluralize, pluralizeWith, inflect, snakecase]
  have hphrase : (snakecase s).toList = snakeChars s.toList := String.toList_ofList
  have hplural : (inflect (snakecase s)).toList = inflectChars (snakeChars s.toList) := by
    rw [inflect, String.toList_ofList, hphrase]
  rw [htext, hphrase, hplural]
  refine ⟨hmarks, ?_⟩
  rw [hmarks]
  split
  · next hlonger => simp [hlonger]
  · next hlonger =>
    rw [or_iff_right hlonger]
    exact marks_rdropWhile_eq_iff

/-- A word that is its own plural loses the mark behind it. -/
theorem marks_pluralize_sheep :
    (∀ c ∈ "big_Sheep!".toList, c.toNat < 128) ∧ marks "big_Sheep!".toList = ['_', '!'] ∧
      marks (pluralize "big_Sheep!").toList = ['_'] := by
  have hascii : ∀ c ∈ "big_Sheep!".toList, c.toNat < 128 := by simp
  refine ⟨hascii, by decide, ?_⟩
  rw [(marks_pluralize "big_Sheep!" hascii).1]
  decide

end Stencil.Text
