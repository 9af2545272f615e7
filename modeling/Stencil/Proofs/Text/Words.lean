import Mathlib.Data.List.Basic
import Stencil.Text.Words
/-!
# Words in a single pass

`segments` cuts a text in one pass: at each separator, which it drops, and wherever `cutsBetween` says so of
two adjacent characters and the one after them. `splitWords_eq_segments` says that the passes of `words`, each of
which sees only the pieces of the one before it, come to the same, in whatever order they run.

The reason is that a boundary looks ahead for one thing only, a lower-case letter behind a capital, and that
no boundary ever cuts there (`Boundary.Tame`). So what a pass cannot see because an earlier one has cut it off
would have made no difference.
-/

namespace Stencil.Text

/-! ## The single pass -/

/-- Whether one word ends and another begins between two adjacent characters, given the one after them. -/
def cutsBetween (a b : Char) (next : Option Char) : Bool :=
  (a.isLower && b.isUpper) || (a.isUpper && b.isUpper && next.any Char.isLower) || (a.isDigit != b.isDigit)

/-- Whether the first character of the text is cut off from the second. -/
def endsWord : List Char → Bool
  | a :: b :: rest => cutsBetween a b rest.head?
  | _ => false

/-- The pieces of a text, some of which may be empty. -/
def segments : List Char → List (List Char)
  | [] => [[]]
  | a :: rest =>
    if isSeparator a then [] :: segments rest
    else if endsWord (a :: rest) then [a] :: segments rest
    else (segments rest).modifyHead (a :: ·)

theorem segments_ne_nil (cs : List Char) : segments cs ≠ [] := by
  induction cs with
  | nil => exact List.cons_ne_nil _ _
  | cons a rest ih =>
    unfold segments
    split
    · exact List.cons_ne_nil _ _
    · split
      · exact List.cons_ne_nil _ _
      · simpa using ih

/-- A piece is only lost together with its separator. -/
theorem flatten_modifyHead_cons {pieces : List (List Char)} (h : pieces ≠ []) (a : Char) :
    (pieces.modifyHead (a :: ·)).flatten = a :: pieces.flatten := by
  cases pieces with
  | nil => exact absurd rfl h
  | cons p ps => rfl

theorem flatten_segments (cs : List Char) :
    (segments cs).flatten = cs.filter (!isSeparator ·) := by
  induction cs with
  | nil => rfl
  | cons a rest ih =>
    unfold segments
    cases hsep : isSeparator a with
    | true => simpa [hsep] using ih
    | false =>
      cases endsWord (a :: rest) with
      | true => simp [hsep, ih]
      | false => simp [hsep, flatten_modifyHead_cons (segments_ne_nil rest), ih]

/-! ## Boundaries that do not hide one another -/

namespace Boundary

/-- The boundary never cuts between a capital and a lower-case letter, and it looks ahead only to see
whether there is such a place. -/
structure Tame (boundary : Boundary) : Prop where
  joins : ∀ a b next, a.isUpper = true → b.isLower = true → boundary a b next = false
  ahead : ∀ a b c, ¬ (b.isUpper = true ∧ c.isLower = true) → boundary a b (some c) = boundary a b none

/-- What a tame boundary sees instead of the next character makes no difference if the next character is
only hidden where it is no lower-case letter behind a capital. -/
theorem Tame.sees {boundary : Boundary} (h : boundary.Tame) (a : Char) {b : Char} {seen next : Option Char}
    (hseen : seen = next ∨ seen = none ∧ ∀ c ∈ next, ¬ (b.isUpper = true ∧ c.isLower = true)) :
    boundary a b seen = boundary a b next := by
  rcases hseen with rfl | ⟨rfl, hnext⟩
  · rfl
  · cases next with
    | none => rfl
    | some c => exact (h.ahead a b c (hnext c rfl)).symm

/-- The places where one of the boundaries cuts. -/
def anyOf (boundaries : List Boundary) : Boundary := fun a b next => boundaries.any fun p => p a b next

theorem Tame.or {p q : Boundary} (hp : p.Tame) (hq : q.Tame) :
    Tame fun a b next => p a b next || q a b next where
  joins a b next ha hb := by rw [hp.joins a b next ha hb, hq.joins a b next ha hb, Bool.or_false]
  ahead a b c h := by rw [hp.ahead a b c h, hq.ahead a b c h]

end Boundary

/-! ### Letters and digits -/

theorem isUpper_iff_toNat {c : Char} : c.isUpper = true ↔ 65 ≤ c.toNat ∧ c.toNat ≤ 90 := by
  have h : c.isUpper = decide (c.val ≥ 'A'.val ∧ c.val ≤ 'Z'.val) := rfl
  simp [h, UInt32.le_iff_toNat_le, ← Char.toNat_val]

theorem isLower_iff_toNat {c : Char} : c.isLower = true ↔ 97 ≤ c.toNat ∧ c.toNat ≤ 122 := by
  have h : c.isLower = (decide (c.val ≥ 'a'.val) && decide (c.val ≤ 'z'.val)) := rfl
  simp [h, UInt32.le_iff_toNat_le, ← Char.toNat_val]

theorem isDigit_iff_toNat {c : Char} : c.isDigit = true ↔ 48 ≤ c.toNat ∧ c.toNat ≤ 57 := by
  simp [Char.isDigit, UInt32.le_iff_toNat_le, ← Char.toNat_val]

theorem isLower_of_isUpper {c : Char} (h : c.isUpper = true) : c.isLower = false := by
  have hc := isUpper_iff_toNat.1 h
  rw [Bool.eq_false_iff, Ne, isLower_iff_toNat]
  omega

theorem isUpper_of_isLower {c : Char} (h : c.isLower = true) : c.isUpper = false := by
  have hc := isLower_iff_toNat.1 h
  rw [Bool.eq_false_iff, Ne, isUpper_iff_toNat]
  omega

theorem isDigit_of_isUpper {c : Char} (h : c.isUpper = true) : c.isDigit = false := by
  have hc := isUpper_iff_toNat.1 h
  rw [Bool.eq_false_iff, Ne, isDigit_iff_toNat]
  omega

theorem isDigit_of_isLower {c : Char} (h : c.isLower = true) : c.isDigit = false := by
  have hc := isLower_iff_toNat.1 h
  rw [Bool.eq_false_iff, Ne, isDigit_iff_toNat]
  omega

/-! ### The boundaries between words -/

theorem tame_lowerToUpper : lowerToUpper.Tame where
  joins a b _ ha _ := by rw [lowerToUpper, isLower_of_isUpper ha, Bool.false_and]
  ahead _ _ _ _ := rfl

theorem tame_acronymEnd : acronymEnd.Tame where
  joins a b _ _ hb := by rw [acronymEnd, isUpper_of_isLower hb, Bool.and_false, Bool.false_and]
  ahead a b c h := by
    rw [not_and, Bool.not_eq_true] at h
    cases hb : b.isUpper with
    | false => simp [acronymEnd, hb]
    | true => simp [acronymEnd, h hb]

theorem tame_digitChange : digitChange.Tame where
  joins a b _ ha hb := by simp [digitChange, isDigit_of_isUpper ha, isDigit_of_isLower hb]
  ahead _ _ _ _ := rfl

/-- The three boundaries between words. -/
def wordBoundaries : List Boundary := [lowerToUpper, acronymEnd, digitChange]

theorem tame_of_mem {boundary : Boundary} (h : boundary ∈ wordBoundaries) : boundary.Tame := by
  simp only [wordBoundaries, List.mem_cons, List.not_mem_nil, or_false] at h
  rcases h with rfl | rfl | rfl
  · exact tame_lowerToUpper
  · exact tame_acronymEnd
  · exact tame_digitChange

theorem Boundary.Tame.anyOf {boundaries : List Boundary} (h : ∀ p ∈ boundaries, p.Tame) :
    (anyOf boundaries).Tame := by
  induction boundaries with
  | nil => exact ⟨fun _ _ _ _ _ => rfl, fun _ _ _ _ => rfl⟩
  | cons p rest ih =>
    rw [List.forall_mem_cons] at h
    exact h.1.or (ih h.2)

theorem anyOf_wordBoundaries : Boundary.anyOf wordBoundaries = cutsBetween := by
  funext a b next
  simp [Boundary.anyOf, wordBoundaries, cutsBetween, lowerToUpper, acronymEnd, digitChange, Bool.or_assoc]

/-! ## One pass after another -/

/-- The first piece begins as the text does, and shows of the character after the first one what stands
there, unless there is a cut. -/
theorem cut_cons (boundary : Boundary) (c : Char) (rest : List Char) :
    ∃ p ps, cut boundary (c :: rest) = (c :: p) :: ps ∧
      (p.head? = rest.head? ∨ p = [] ∧ ∀ d ∈ rest.head?, ∃ next, boundary c d next = true) := by
  cases rest with
  | nil => exact ⟨[], [], rfl, .inl rfl⟩
  | cons d rest =>
    unfold cut
    split
    · next hcut =>
      refine ⟨[], _, rfl, .inr ⟨rfl, fun e he => ?_⟩⟩
      cases he
      exact ⟨_, hcut⟩
    · obtain ⟨p, ps, hp, -⟩ := cut_cons boundary d rest
      rw [hp]
      exact ⟨d :: p, ps, rfl, .inl rfl⟩

/-- A second pass over the pieces of the first one cuts them where it would cut the whole text. -/
theorem cutAll_cut {p q : Boundary} (hp : p.Tame) (hq : q.Tame) (cs : List Char) :
    cutAll q (cut p cs) = cut (fun a b next => p a b next || q a b next) cs := by
  fun_induction cut p cs with
  | case1 => rfl
  | case2 => rfl
  | case3 c d rest hcut ih =>
    simp only [cutAll, List.flatMap_cons, cut, hcut] at ih ⊢
    simp [ih]
  | case4 c d rest hcut ih =>
    obtain ⟨x, xs, hx, hhead⟩ := cut_cons p d rest
    -- what the second pass sees behind `d` is the first character of `x`
    have hsees : q c d x.head? = q c d rest.head? := by
      refine hq.sees c (hhead.imp_right fun ⟨hnil, hnext⟩ => ⟨by rw [hnil]; rfl, fun e he hde => ?_⟩)
      obtain ⟨next, hp'⟩ := hnext e he
      rw [hp.joins d e next hde.1 hde.2] at hp'
      cases hp'
    obtain ⟨y, ys, hy, -⟩ := cut_cons q d x
    rw [hx] at ih ⊢
    simp only [List.modifyHead_cons, cutAll, List.flatMap_cons, hy, List.cons_append] at ih ⊢
    rw [cut, cut, hsees, ← ih, Bool.eq_false_iff.2 hcut, Bool.false_or, hy]
    split <;> rfl

@[simp]
theorem cutAll_nil (boundary : Boundary) : cutAll boundary [] = [] := rfl

@[simp]
theorem cutAll_cons (boundary : Boundary) (piece : List Char) (pieces : List (List Char)) :
    cutAll boundary (piece :: pieces) = cut boundary piece ++ cutAll boundary pieces := rfl

@[simp]
theorem cutAll_append (boundary : Boundary) (pieces more : List (List Char)) :
    cutAll boundary (pieces ++ more) = cutAll boundary pieces ++ cutAll boundary more :=
  List.flatMap_append

theorem cutAll_cutAll {p q : Boundary} (hp : p.Tame) (hq : q.Tame) (pieces : List (List Char)) :
    cutAll q (cutAll p pieces) = cutAll (fun a b next => p a b next || q a b next) pieces := by
  induction pieces with
  | nil => rfl
  | cons piece pieces ih => rw [cutAll_cons, cutAll_append, cutAll_cut hp hq, ih, cutAll_cons]

/-- Where no boundary cuts, the text stays whole. -/
theorem cut_anyOf_nil (cs : List Char) : cut (Boundary.anyOf []) cs = [cs] := by
  induction cs with
  | nil => rfl
  | cons c cs ih =>
    cases cs with
    | nil => rfl
    | cons d rest =>
      rw [cut, ih]
      rfl

/-- Passes that run one after another come to a single one, which cuts where one of them does. -/
theorem foldl_cutAll {passes : List Boundary} (h : ∀ p ∈ passes, p.Tame) (pieces : List (List Char)) :
    passes.foldl (fun pieces p => cutAll p pieces) pieces = cutAll (Boundary.anyOf passes) pieces := by
  induction passes generalizing pieces with
  | nil =>
    induction pieces with
    | nil => rfl
    | cons piece pieces ih => simpa [cut_anyOf_nil] using ih
  | cons p rest ih =>
    rw [List.forall_mem_cons] at h
    -- all later passes are one already, and it is tame as they are
    rw [List.foldl_cons, ih h.2, cutAll_cutAll h.1 (.anyOf h.2)]
    rfl

/-! ## Separators -/

/-- The pieces of a list that are not empty. -/
def nonempty (pieces : List (List Char)) : List (List Char) := pieces.filter fun piece => !piece.isEmpty

@[simp]
theorem nonempty_nil_cons (pieces : List (List Char)) : nonempty ([] :: pieces) = nonempty pieces := rfl

@[simp]
theorem nonempty_cons_cons (c : Char) (p : List Char) (pieces : List (List Char)) :
    nonempty ((c :: p) :: pieces) = (c :: p) :: nonempty pieces := rfl

theorem isSeparator_of_letter {c : Char} (h : c.isUpper = true ∨ c.isLower = true) : isSeparator c = false := by
  rw [Bool.eq_false_iff]
  intro hsep
  simp only [isSeparator, Bool.or_eq_true, beq_iff_eq] at hsep
  rcases hsep with (rfl | rfl) | rfl <;> exact absurd h (by decide)

/-- The piece in front of the first separator begins as the text does, and shows of the second character what
stands there, unless that is a separator. -/
theorem splitOnP_cons_of_not_sep {c : Char} (h : isSeparator c = false) (rest : List Char) :
    ∃ p ps, (c :: rest).splitOnP isSeparator = (c :: p) :: ps ∧ rest.splitOnP isSeparator = p :: ps ∧
      (p.head? = rest.head? ∨ p = [] ∧ ∀ d ∈ rest.head?, isSeparator d = true) := by
  obtain ⟨p, ps, hp⟩ := List.exists_cons_of_ne_nil (List.splitOnP_ne_nil isSeparator rest)
  refine ⟨p, ps, by simp [List.splitOnP_cons_eq_if_modifyHead, h, hp], hp, ?_⟩
  cases rest with
  | nil =>
    cases hp
    exact .inl rfl
  | cons d rest =>
    rw [List.splitOnP_cons_eq_if_modifyHead] at hp
    cases hd : isSeparator d with
    | true =>
      rw [if_pos hd] at hp
      cases hp
      exact .inr ⟨rfl, fun e he => by cases he; exact hd⟩
    | false =>
      obtain ⟨q, qs, hq⟩ := List.exists_cons_of_ne_nil (List.splitOnP_ne_nil isSeparator rest)
      rw [hd, if_neg Bool.false_ne_true, hq] at hp
      cases hp
      exact .inl rfl

theorem segments_cons_of_not_sep {c : Char} (h : isSeparator c = false) (rest : List Char) :
    ∃ p ps, segments (c :: rest) = (c :: p) :: ps := by
  obtain ⟨p, ps, hp⟩ := List.exists_cons_of_ne_nil (segments_ne_nil rest)
  unfold segments
  rw [h, hp]
  cases endsWord (c :: rest) with
  | true => exact ⟨[], _, rfl⟩
  | false => exact ⟨p, ps, rfl⟩

/-- A pass over the pieces between separators gives the words of the single pass. -/
theorem nonempty_cutAll_splitOnP (h : Boundary.Tame cutsBetween) (cs : List Char) :
    nonempty (cutAll cutsBetween (cs.splitOnP isSeparator)) = nonempty (segments cs) := by
  induction cs with
  | nil => rfl
  | cons a rest ih =>
    cases ha : isSeparator a with
    | true => simpa [List.splitOnP_cons_eq_if_modifyHead, segments, ha, cut] using ih
    | false =>
      obtain ⟨p, ps, hsplit, hrest, -⟩ := splitOnP_cons_of_not_sep ha rest
      rw [hsplit, segments, ha]
      rw [hrest] at ih
      cases rest with
      | nil =>
        cases hrest
        rfl
      | cons b more =>
        cases hb : isSeparator b with
        | true =>
          -- whether to cut in front of a separator makes no difference
          have hsegments : segments (b :: more) = [] :: segments more := by rw [segments, if_pos hb]
          rw [List.splitOnP_cons_eq_if_modifyHead, if_pos hb] at hrest
          cases hrest
          rw [hsegments] at ih ⊢
          cases endsWord (a :: b :: more) with
          | true => simpa [cut] using ih
          | false => simpa [cut] using ih
        | false =>
          obtain ⟨x, xs, hx, -, hhead⟩ := splitOnP_cons_of_not_sep hb more
          obtain ⟨rfl, rfl⟩ : b :: x = p ∧ xs = ps := by simpa [hx] using hrest
          have hsees : cutsBetween a b x.head? = cutsBetween a b more.head? := by
            refine h.sees a (hhead.imp_right fun ⟨hnil, hnext⟩ => ⟨by rw [hnil]; rfl, fun c hc hbc => ?_⟩)
            have hsep := hnext c hc
            rw [isSeparator_of_letter (.inr hbc.2)] at hsep
            cases hsep
          rw [cutAll_cons, cut, hsees]
          cases hends : cutsBetween a b more.head? with
          | true => simpa [endsWord, hends] using ih
          | false =>
            obtain ⟨y, ys, hy, -⟩ := cut_cons cutsBetween b x
            obtain ⟨z, zs, hz⟩ := segments_cons_of_not_sep hb more
            rw [cutAll_cons, hy, hz] at ih
            simpa [endsWord, hends, hy, hz] using ih

/-! ## What the passes leave together -/

/-- The text stands in one of the pieces. -/
def Together (w : List Char) (pieces : List (List Char)) : Prop := ∃ piece ∈ pieces, w <:+: piece

theorem Together.cons {w : List Char} {pieces : List (List Char)} (h : Together w pieces) (p : List Char) :
    Together w (p :: pieces) := by
  obtain ⟨piece, hmem, hw⟩ := h
  exact ⟨piece, List.mem_cons_of_mem p hmem, hw⟩

theorem Together.modifyHead {w : List Char} {pieces : List (List Char)} (h : Together w pieces) (c : Char) :
    Together w (pieces.modifyHead (c :: ·)) := by
  obtain ⟨piece, hmem, hw⟩ := h
  cases pieces with
  | nil => cases hmem
  | cons p ps =>
    rcases List.mem_cons.1 hmem with rfl | hmem
    · exact ⟨c :: piece, List.mem_cons_self, List.infix_cons hw⟩
    · exact ⟨piece, List.mem_cons_of_mem _ hmem, hw⟩

/-- Three characters stay together if there is no boundary between them. -/
theorem together_cut {boundary : Boundary} {a b c : Char} {cs : List Char} (h : [a, b, c] <:+: cs)
    (hab : boundary a b (some c) = false) (hbc : ∀ next, boundary b c next = false) :
    Together [a, b, c] (cut boundary cs) := by
  obtain ⟨before, after, rfl⟩ := h
  induction before with
  | nil =>
    obtain ⟨p, ps, hp, -⟩ := cut_cons boundary c after
    refine ⟨a :: b :: c :: p, ?_, [], p, rfl⟩
    simp [cut, hab, hbc, hp]
  | cons x before ih =>
    obtain ⟨y, rest, hrest⟩ : ∃ y rest, before ++ [a, b, c] ++ after = y :: rest := by
      cases before with
      | nil => exact ⟨a, b :: c :: after, rfl⟩
      | cons y before => exact ⟨y, _, rfl⟩
    rw [hrest] at ih
    rw [List.cons_append, List.cons_append, hrest, cut]
    split
    · exact ih.cons [x]
    · exact ih.modifyHead x

theorem together_splitOnP {sep : Char → Bool} {a b c : Char} {cs : List Char} (h : [a, b, c] <:+: cs)
    (ha : sep a = false) (hb : sep b = false) (hc : sep c = false) :
    Together [a, b, c] (cs.splitOnP sep) := by
  obtain ⟨before, after, rfl⟩ := h
  induction before with
  | nil =>
    obtain ⟨p, ps, hp⟩ := List.exists_cons_of_ne_nil (List.splitOnP_ne_nil sep after)
    refine ⟨a :: b :: c :: p, ?_, [], p, rfl⟩
    simp [List.splitOnP_cons_eq_if_modifyHead, ha, hb, hc, hp]
  | cons x before ih =>
    rw [List.cons_append, List.cons_append, List.splitOnP_cons_eq_if_modifyHead]
    split
    · exact ih.cons []
    · exact ih.modifyHead x

theorem Together.cutAll {boundary : Boundary} {a b c : Char} {pieces : List (List Char)}
    (h : Together [a, b, c] pieces) (hab : boundary a b (some c) = false)
    (hbc : ∀ next, boundary b c next = false) : Together [a, b, c] (cutAll boundary pieces) := by
  obtain ⟨piece, hmem, hw⟩ := h
  obtain ⟨inner, hinner, hw⟩ := together_cut hw hab hbc
  exact ⟨inner, List.mem_flatMap.2 ⟨piece, hmem, hinner⟩, hw⟩

/-! ## The words of an identifier -/

theorem words_eq_of_perm {passes : List Boundary} (h : passes.Perm wordBoundaries) (cs : List Char) :
    nonempty (passes.foldl (fun pieces p => cutAll p pieces) (cs.splitOnP isSeparator)) =
      nonempty (segments cs) := by
  have htame : ∀ p ∈ passes, p.Tame := fun p hp => tame_of_mem (h.mem_iff.1 hp)
  have hany : Boundary.anyOf passes = cutsBetween := by
    rw [← anyOf_wordBoundaries]
    funext a b next
    exact h.any_eq
  rw [foldl_cutAll htame, hany, nonempty_cutAll_splitOnP (hany ▸ .anyOf htame)]

theorem words_eq (cs : List Char) : words cs = nonempty (segments cs) := words_eq_of_perm (.refl _) cs

theorem flatten_words (cs : List Char) : (words cs).flatten = cs.filter (!isSeparator ·) := by
  rw [words_eq, nonempty, List.flatten_filter_not_isEmpty, flatten_segments]

theorem mem_of_mem_words {cs w : List Char} (hw : w ∈ words cs) {c : Char} (hc : c ∈ w) :
    c ∈ cs ∧ isSeparator c = false := by
  have hmem : c ∈ (words cs).flatten := List.mem_flatten.2 ⟨w, hw, hc⟩
  rwa [flatten_words, List.mem_filter, Bool.not_eq_true'] at hmem

/-- The end of an acronym stands in one piece with the letter behind it when it is looked for. -/
theorem together_acronymEnd {a b c : Char} {cs : List Char} (h : [a, b, c] <:+: cs)
    (hend : acronymEnd a b (some c) = true) :
    Together [a, b, c] (cutAll lowerToUpper (cs.splitOnP isSeparator)) := by
  simp only [acronymEnd, Option.any_some, Bool.and_eq_true] at hend
  obtain ⟨⟨ha, hb⟩, hc⟩ := hend
  have hsplit := together_splitOnP h (isSeparator_of_letter (.inl ha)) (isSeparator_of_letter (.inl hb))
    (isSeparator_of_letter (.inr hc))
  exact hsplit.cutAll (by rw [lowerToUpper, isLower_of_isUpper ha, Bool.false_and]) fun next =>
     tame_lowerToUpper.joins b c next hb hc

/-- The words of an identifier are the pieces of the single pass that are not empty. They hold all of it but the
separators; the passes can run in any order; and none hides the end of an acronym from a later one. -/
theorem splitWords_eq_segments (s : String) :
    splitWords s = (nonempty (segments s.toList)).map String.ofList ∧
      String.join (splitWords s) = String.ofList (s.toList.filter (!isSeparator ·)) ∧
      (∀ a b c, [a, b, c] <:+: s.toList → acronymEnd a b (some c) = true →
        Together [a, b, c] (cutAll lowerToUpper (s.toList.splitOnP isSeparator))) ∧
      ∀ passes : List Boundary, passes.Perm wordBoundaries →
        (nonempty (passes.foldl (fun pieces p => cutAll p pieces)
          (s.toList.splitOnP isSeparator))).map String.ofList = splitWords s := by
  refine ⟨?_, ?_, ?_, ?_⟩
  · rw [splitWords, words_eq]
  · apply String.toList_injective
    rw [String.toList_join, String.toList_ofList, ← flatten_words, splitWords, List.flatMap_map]
    simp [List.flatMap_def]
  · exact fun a b c h hend => together_acronymEnd h hend
  · intro passes hperm
    rw [words_eq_of_perm hperm, splitWords, words_eq]

/-- An acronym between two words, digits and a separator, with the passes run backwards. -/
theorem splitWords_acronym_reversed :
    let cs := "myHTTPServer4_go".toList
    splitWords "myHTTPServer4_go" = ["my", "HTTP", "Server", "4", "go"] ∧
      Together ['P', 'S', 'e'] (cutAll lowerToUpper (cs.splitOnP isSeparator)) ∧
      (nonempty (wordBoundaries.reverse.foldl (fun pieces p => cutAll p pieces)
        (cs.splitOnP isSeparator))).map String.ofList = ["my", "HTTP", "Server", "4", "go"] := by
  intro cs
  obtain ⟨hwords, -, htogether, hperm⟩ := splitWords_eq_segments "myHTTPServer4_go"
  have hsplit : splitWords "myHTTPServer4_go" = ["my", "HTTP", "Server", "4", "go"] := by
    rw [hwords]
    decide
  refine ⟨hsplit, htogether 'P' 'S' 'e' ⟨"myHTT".toList, "rver4_go".toList, by decide⟩ (by decide), ?_⟩
  rw [hperm _ (List.reverse_perm wordBoundaries), hsplit]

end Stencil.Text
