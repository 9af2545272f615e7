import Stencil.Output.Block
import Stencil.Proofs.Text.Search
/-!
# Walking a text for blocks

`Scanned` reads a text one character at a time. Where a block begins it is taken, and the walk goes on
behind it; everywhere else the walk goes on with the next character. `extractFiles` jumps: to the first
opening mark, behind the opening mark of a broken header, and to the end once a header is not closed.
`extractFiles_eq_iff` says that the jumps miss nothing.

Two facts carry it. The opening mark has no border, so no second one begins inside of it. And what
follows a later header is a part of what follows an earlier one, so it holds no closing mark that the
earlier one has not seen.
-/

namespace Stencil

namespace Block

open Text

/-! ## Blocks where they stand -/

/-- The text begins with a block: an opening mark, fields without a line end up to the first end of a
header, and a body up to the first closing mark after that. -/
inductive BlockAt : (text fields body rest : List Char) → Prop
  | intro {after fields content body rest : List Char} :
      FirstAt headerEnd after fields content → '\n' ∉ fields → FirstAt closing content body rest →
      BlockAt (opening ++ after) fields body rest

/-- What the fields of a header say: a name, and perhaps a directory after the first mark for it. -/
inductive Says (fields : List Char) : (name : List Char) → (directory : Option (List Char)) → Prop
  | nameOnly : ¬ directoryField <:+: fields → Says fields fields none
  | withDirectory {name directory : List Char} :
      FirstAt directoryField fields name directory → Says fields name (some directory)

/-- The files of a block: none without a name, else one, in its own directory or the default one. -/
inductive Yields (default : String) (fields body : List Char) : List OutputFile → Prop
  | nameless {directory : Option (List Char)} : Says fields [] directory → Yields default fields body []
  | placed {name directory : List Char} :
      Says fields name (some directory) → name ≠ [] → directory ≠ [] →
      Yields default fields body
        [⟨String.ofList name, String.ofList directory, Bytes.ofText (String.ofList (cleanBody body))⟩]
  | unplaced {name : List Char} {directory : Option (List Char)} :
      Says fields name directory → name ≠ [] → (∀ d ∈ directory, d = []) →
      Yields default fields body
        [⟨String.ofList name, default, Bytes.ofText (String.ofList (cleanBody body))⟩]

/-- No block begins here. -/
def NoBlock (text : List Char) : Prop := ∀ fields body rest, ¬ BlockAt text fields body rest

/-- The files on a walk through the text. -/
inductive Scanned (default : String) : List Char → List OutputFile → Prop
  | ended : Scanned default [] []
  | block {text fields body rest : List Char} {files later : List OutputFile} :
      BlockAt text fields body rest → Yields default fields body files → Scanned default rest later →
      Scanned default text (files ++ later)
  | moved {c : Char} {cs : List Char} {files : List OutputFile} :
      NoBlock (c :: cs) → Scanned default cs files → Scanned default (c :: cs) files

theorem BlockAt.opening_prefix {text fields body rest : List Char} (h : BlockAt text fields body rest) :
    opening <+: text := by
  obtain ⟨-, -, -⟩ := h
  exact List.prefix_append _ _

/-- A text begins with one block at most. -/
theorem BlockAt.unique {text f f' b b' r r' : List Char} (h : BlockAt text f b r)
    (h' : BlockAt text f' b' r') : f = f' ∧ b = b' ∧ r = r' := by
  generalize ht : text = t at h'
  obtain ⟨hEnd, -, hClose⟩ := h
  obtain ⟨hEnd', -, hClose'⟩ := h'
  obtain rfl := List.append_cancel_left ht
  obtain ⟨rfl, rfl⟩ := hEnd.unique hEnd'
  obtain ⟨rfl, rfl⟩ := hClose.unique hClose'
  exact ⟨rfl, rfl, rfl⟩

theorem says_iff {fields name : List Char} {directory : Option (List Char)} :
    Says fields name directory ↔ Header.ofFields fields = ⟨name, directory⟩ := by
  unfold Header.ofFields
  constructor
  · rintro (h | h)
    · rw [breakOn_eq_none_iff.2 h]
    · rw [breakOn_eq_some_iff.2 h]
  · intro h
    split at h
    · next hb => cases h; exact .withDirectory (breakOn_eq_some_iff.1 hb)
    · next hb => cases h; exact .nameOnly (breakOn_eq_none_iff.1 hb)

/-- The files of a block are those that the search makes of it. -/
theorem yields_iff {default : String} {fields body : List Char} {files : List OutputFile} :
    Yields default fields body files ↔ (toFile? (.ofFields fields) default body).toList = files := by
  constructor
  · rintro (hs | ⟨hs, hn, hd⟩ | ⟨hs, hn, hd⟩)
    · simp [says_iff.1 hs, toFile?]
    · obtain ⟨c, cs, rfl⟩ := List.exists_cons_of_ne_nil hd
      simp [says_iff.1 hs, toFile?, hn, Header.directoryOr]
    · rename_i name directory
      rcases directory with _ | d
      · simp [says_iff.1 hs, toFile?, hn, Header.directoryOr]
      · obtain rfl := hd d rfl
        simp [says_iff.1 hs, toFile?, hn, Header.directoryOr]
  · -- no name, then no directory, an empty one, and one of its own
    rintro rfl
    rcases h : Header.ofFields fields with ⟨name, directory⟩
    have hs : Says fields name directory := says_iff.2 h
    by_cases hn : name = []
    · subst hn
      simpa [toFile?] using Yields.nameless hs
    · rcases directory with _ | _ | ⟨c, cs⟩
      · simpa [toFile?, hn, Header.directoryOr] using Yields.unplaced hs hn (by simp)
      · simpa [toFile?, hn, Header.directoryOr] using Yields.unplaced hs hn (by simp)
      · simpa [toFile?, hn, Header.directoryOr] using Yields.placed hs hn (by simp)

/-- A walk through a text has one result. -/
theorem Scanned.unique {default : String} {text : List Char} {files files' : List OutputFile}
    (h : Scanned default text files) (h' : Scanned default text files') : files = files' := by
  induction h generalizing files' with
  | ended =>
    cases h' with
    | ended => rfl
    | block hb _ _ => exact absurd hb.opening_prefix (by decide)
  | block hb hy _ ih =>
    cases h' with
    | ended => exact absurd hb.opening_prefix (by decide)
    | block hb' hy' hr' =>
      obtain ⟨rfl, rfl, rfl⟩ := hb.unique hb'
      rw [← yields_iff.1 hy, ← yields_iff.1 hy', ih hr']
    | moved hn _ => exact absurd hb (hn _ _ _)
  | moved hn _ ih =>
    cases h' with
    | block hb' _ _ => exact absurd hb' (hn _ _ _)
    | moved _ hr' => exact ih hr'

/-- Characters where no block begins are passed over. -/
theorem Scanned.append {default : String} {before rest : List Char} {files : List OutputFile}
    (h : ∀ s, s <:+ before → s ≠ [] → NoBlock (s ++ rest)) (hr : Scanned default rest files) :
    Scanned default (before ++ rest) files := by
  induction before with
  | nil => exact hr
  | cons c cs ih =>
    refine .moved (h (c :: cs) (List.suffix_refl _) (List.cons_ne_nil _ _)) (ih fun s hs => ?_)
    exact h s (hs.trans (List.suffix_cons c cs))

/-! ## What the search does -/

/-- The four ways in which the search for the next block goes on. -/
inductive Leads (text : List Char) : Option (Option (Header × List Char) × List Char) → Prop
  | unopened : ¬ opening <:+: text → Leads text none
  | broken {before after : List Char} : FirstAt opening text before after →
      (∀ fields rest, FirstAt headerEnd after fields rest → '\n' ∈ fields) → Leads text (some (none, after))
  | unclosed {before after fields content : List Char} : FirstAt opening text before after →
      FirstAt headerEnd after fields content → ¬ closing <:+: content → Leads text none
  | block {before after fields content body rest : List Char} : FirstAt opening text before after →
      FirstAt headerEnd after fields content → '\n' ∉ fields → FirstAt closing content body rest →
      Leads text (some (some (.ofFields fields, body), rest))

theorem readHeader_eq_some_iff {text rest : List Char} {h : Header} :
    readHeader text = some (h, rest) ↔
      ∃ fields, FirstAt headerEnd text fields rest ∧ '\n' ∉ fields ∧ Header.ofFields fields = h := by
  unfold readHeader
  constructor
  · intro e
    split at e
    · next fields rest' hb =>
      split at e
      · cases e
      · next hn =>
        cases e
        exact ⟨fields, breakOn_eq_some_iff.1 hb, by simpa using hn, rfl⟩
    · cases e
  · rintro ⟨fields, hEnd, hn, rfl⟩
    rw [breakOn_eq_some_iff.2 hEnd]
    simp [hn]

theorem readHeader_eq_none_iff {text : List Char} :
    readHeader text = none ↔ ∀ fields rest, FirstAt headerEnd text fields rest → '\n' ∈ fields := by
  constructor
  · intro e fields rest hEnd
    by_contra hn
    rw [readHeader_eq_some_iff.2 ⟨fields, hEnd, hn, rfl⟩] at e
    cases e
  · intro h
    cases e : readHeader text with
    | none => rfl
    | some found =>
      obtain ⟨fields, hEnd, hn, -⟩ := readHeader_eq_some_iff.1 e
      exact absurd (h fields _ hEnd) hn

theorem leads_next? (text : List Char) : Leads text (next? text) := by
  rcases hOpen : breakOn opening text with _ | ⟨before, after⟩
  · simp only [next?, hOpen]
    exact .unopened (breakOn_eq_none_iff.1 hOpen)
  have ho := breakOn_eq_some_iff.1 hOpen
  rcases hRead : readHeader after with _ | ⟨header, content⟩
  · simp only [next?, hOpen, hRead]
    exact .broken ho (readHeader_eq_none_iff.1 hRead)
  obtain ⟨fields, he, hn, rfl⟩ := readHeader_eq_some_iff.1 hRead
  rcases hClose : breakOn closing content with _ | ⟨body, rest⟩
  · simp only [next?, hOpen, hRead, hClose]
    exact .unclosed ho he (breakOn_eq_none_iff.1 hClose)
  · simp only [next?, hOpen, hRead, hClose]
    exact .block ho he hn (breakOn_eq_some_iff.1 hClose)

theorem extractChars_eq (default : String) (text : List Char) :
    extractChars default text = match next? text with
      | none => []
      | some (block, rest) =>
        (block.bind fun (header, body) => toFile? header default body).toList ++
          extractChars default rest := by
  rw [extractChars]
  split <;> simp_all

/-! ## The jumps miss nothing -/

theorem unbordered_opening : Unbordered opening := by decide

/-- The first opening mark is the only one that begins before its own end. -/
theorem eq_opening_of_prefix {text before after s : List Char} (h : FirstAt opening text before after)
    (hs : s <:+ before ++ opening) (h0 : s ≠ []) (hp : opening <+: s ++ after) : s = opening := by
  obtain ⟨p, hp'⟩ := hs
  obtain ⟨x, hx⟩ := hp
  have hlen : before.length ≤ p.length := by
    refine h.first p x ?_
    rw [List.append_assoc, hx, ← List.append_assoc, hp', ← h.eq]
  have hle : s.length ≤ opening.length := by
    have := congrArg List.length hp'
    simp only [List.length_append] at this
    omega
  have hsuf : s <:+ opening :=
    List.suffix_of_suffix_length_le ⟨p, hp'⟩ (List.suffix_append before opening) hle
  obtain ⟨z, hz, -⟩ := continues_of_append_eq hx.symm hle
  rcases unbordered_opening s ((List.mem_tails s opening).2 hsuf) ⟨z, hz.symm⟩ with h | h
  · exact absurd h h0
  · exact h

/-- Nothing begins a block up to a broken header, its opening mark included. -/
theorem noBlock_broken {text before after s : List Char} (h : FirstAt opening text before after)
    (hbroken : ∀ fields rest, FirstAt headerEnd after fields rest → '\n' ∈ fields)
    (hs : s <:+ before ++ opening) (h0 : s ≠ []) : NoBlock (s ++ after) := by
  intro fields body rest hb
  obtain rfl := eq_opening_of_prefix h hs h0 hb.opening_prefix
  generalize ht : opening ++ after = t at hb
  obtain ⟨hEnd, hn, -⟩ := hb
  obtain rfl := List.append_cancel_left ht
  exact hn (hbroken _ _ hEnd)

/-- Nothing begins a block before the first opening mark. -/
theorem noBlock_before {text before after s : List Char} (h : FirstAt opening text before after)
    (hs : s <:+ before) (h0 : s ≠ []) : NoBlock (s ++ (opening ++ after)) := by
  intro fields body rest hb
  obtain ⟨p, rfl⟩ := hs
  obtain ⟨x, hx⟩ := hb.opening_prefix
  have hlen := h.first p x (by rw [h.eq, List.append_assoc p opening, hx]; simp)
  rw [List.length_append] at hlen
  exact h0 (List.eq_nil_of_length_eq_zero (by omega))

/-- Behind a header that is not closed there is no block: what follows a later header's end follows
the first one's, too. -/
theorem noBlock_unclosed {text before after fields content s : List Char}
    (h : FirstAt opening text before after) (hEnd : FirstAt headerEnd after fields content)
    (hClose : ¬ closing <:+: content) (hs : s <:+ text) : NoBlock s := by
  rintro fields' body rest hb
  obtain ⟨hEnd', -, hClose'⟩ := hb
  rename_i after' content'
  obtain ⟨p, hp⟩ := hs
  have hlen : before.length ≤ p.length := h.first p after' (by rw [List.append_assoc, hp])
  have hafter : after' <:+ after := by
    refine List.suffix_of_suffix_length_le ⟨p ++ opening, by rw [List.append_assoc, hp]⟩
      ⟨before ++ opening, h.eq.symm⟩ ?_
    have := congrArg List.length (hp.trans h.eq)
    simp only [List.length_append] at this
    omega
  -- So the first end of a header that `after` has does not stand behind the one of the later header.
  obtain ⟨q, hq⟩ := hafter
  have hfields : fields.length ≤ (q ++ fields').length := by
    refine hEnd.first (q ++ fields') content' ?_
    rw [← hq, hEnd'.eq]
    simp
  have hcontent : content' <:+ content := by
    have hlater : content' <:+ after := ⟨q ++ fields' ++ headerEnd, by rw [← hq, hEnd'.eq]; simp⟩
    refine List.suffix_of_suffix_length_le hlater ⟨fields ++ headerEnd, hEnd.eq.symm⟩ ?_
    · have := congrArg List.length (hq.trans hEnd.eq)
      rw [hEnd'.eq] at this
      simp only [List.length_append] at this hfields
      omega
  exact hClose (hClose'.occurs.trans hcontent.isInfix)

/-- The files that the search finds are those on a walk through the text. -/
theorem scanned_extractChars (default : String) (text : List Char) :
    Scanned default text (extractChars default text) := by
  rw [extractChars_eq]
  have hl := leads_next? text
  rcases hn : next? text with _ | ⟨block, rest⟩
  · rw [hn] at hl
    have hnone : ∀ s, s <:+ text → s ≠ [] → NoBlock (s ++ []) := by
      intro s hs _
      rw [List.append_nil]
      cases hl with
      | unopened ho => exact fun _ _ _ hb => ho (hb.opening_prefix.isInfix.trans hs.isInfix)
      | unclosed ho he hc => exact noBlock_unclosed ho he hc hs
    simpa using Scanned.append hnone .ended
  · -- the search goes on with a shorter text
    have hshort := length_next? hn
    have ih := scanned_extractChars default rest
    rw [hn] at hl
    cases hl with
    | broken ho hbroken =>
      rw [ho.eq]
      exact .append (fun s hs h0 => noBlock_broken ho hbroken hs h0) ih
    | block ho he hf hc =>
      rw [ho.eq, List.append_assoc]
      refine .append (fun s hs h0 => noBlock_before ho hs h0) ?_
      exact .block (.intro he hf hc) (yields_iff.2 rfl) ih
termination_by text.length

end Block

open Block in
/-- The files of a text are those on a walk through it, and no others. -/
theorem extractFiles_eq_iff (text default : String) (files : List OutputFile) :
    extractFiles text default = files ↔ Scanned default text.toList files := by
  constructor
  · rintro rfl
    exact scanned_extractChars default text.toList
  · exact (scanned_extractChars default text.toList).unique

end Stencil
