import Mathlib.Data.List.Infix
import Stencil.Output.Block
import Stencil.Proofs.Text.Trimming
/-!
# What cleaning keeps of a body

A place of a body is `InContinuation` if it belongs to a line continuation, or to the spaces and tabs that end right in
front of one. That looks at the whole body. `joinLines` goes through the body once and only looks ahead, and it keeps
the characters at all other places (`joinLines_eq_kept`). Of these the cleaned body is the middle part that has only
blanks around it and none at its own ends (`cleanBody_eq_iff`).
-/

namespace Stencil

namespace Block

open Text

/-! ## Places in a body -/

/-- What joins a line to the next one. -/
def continuation : List Char := ['!', '>', '\n']

/-- The place belongs to a line continuation, or to the spaces and tabs that end right in front of one. -/
def InContinuation (body : List Char) (place : Nat) : Prop :=
  ∃ start < body.length, continuation <+: body.drop start ∧ place < start + continuation.length ∧
    ∀ c ∈ (body.take start).drop place, c = ' ' ∨ c = '\t'

-- by the characters of the body, and not by all that there are
instance (body : List Char) (place : Nat) : Decidable (InContinuation body place) :=
  haveI (start : Nat) : Decidable (∀ c ∈ (body.take start).drop place, c = ' ' ∨ c = '\t') := List.decidableBAll _ _
  inferInstanceAs (Decidable (∃ start < body.length, _))

/-- The characters of a body at the places that belong to no line continuation. -/
def kept (body : List Char) : List Char :=
  (body.zipIdx.filter fun (_, place) => ¬ InContinuation body place).map Prod.fst

example : kept "a \t!>\n !b!> \n".toList = "a !b!> \n".toList := by decide

/-! ## Looking ahead -/

/-- A line continuation begins the text, or spaces and tabs in front of one do. -/
def LeadsIn (cs : List Char) : Prop :=
  ∃ start, continuation <+: cs.drop start ∧ ∀ c ∈ cs.take start, c = ' ' ∨ c = '\t'

theorem not_leadsIn_nil : ¬ LeadsIn [] := by
  rintro ⟨start, hbegins, -⟩
  rw [List.drop_nil] at hbegins
  exact absurd (List.prefix_nil.1 hbegins) (List.cons_ne_nil _ _)

theorem leadsIn_cons_iff {c : Char} {cs : List Char} :
    LeadsIn (c :: cs) ↔ continuation <+: c :: cs ∨ (c = ' ' ∨ c = '\t') ∧ LeadsIn cs := by
  constructor
  · rintro ⟨start, hbegins, hblank⟩
    cases start with
    | zero => exact .inl hbegins
    | succ start =>
      rw [List.take_succ_cons, List.forall_mem_cons] at hblank
      exact .inr ⟨hblank.1, start, hbegins, hblank.2⟩
  · rintro (hbegins | ⟨hc, start, hbegins, hblank⟩)
    · exact ⟨0, hbegins, by simp⟩
    · exact ⟨start + 1, hbegins, List.forall_mem_cons.2 ⟨hc, hblank⟩⟩

theorem isInlineBlank_iff {c : Char} : isInlineBlank c = true ↔ c = ' ' ∨ c = '\t' := by
  simp [isInlineBlank]

theorem leadsIntoContinuation_iff {cs : List Char} : leadsIntoContinuation cs = true ↔ LeadsIn cs := by
  induction cs with
  | nil => exact iff_of_false (by decide) not_leadsIn_nil
  | cons c cs ih =>
    have hmark : "!>\n".toList = continuation := by decide
    rw [leadsIn_cons_iff, ← isInlineBlank_iff]
    rw [leadsIntoContinuation, hmark] at ih ⊢
    cases hc : isInlineBlank c with
    | true =>
      have hnone : ¬ continuation <+: c :: cs := by
        rintro ⟨rest, hrest⟩
        obtain ⟨rfl, -⟩ := List.cons.inj hrest
        cases hc
      rw [List.dropWhile_cons_of_pos hc, ih]
      exact ⟨fun h => .inr ⟨rfl, h⟩, fun h => (h.resolve_left hnone).2⟩
    | false =>
      rw [List.dropWhile_cons_of_neg (by simp [hc]), List.isPrefixOf_iff_prefix]
      exact ⟨.inl, fun h => h.resolve_right fun hblank => Bool.false_ne_true hblank.1⟩

theorem not_prefix_of_ne {c : Char} {rest : List Char}
    (h : ∀ more, c = '!' → rest = '>' :: '\n' :: more → False) : ¬ continuation <+: c :: rest := by
  rintro ⟨more, hmore⟩
  obtain ⟨hc, hrest⟩ := List.cons.inj hmore
  exact h more hc.symm hrest.symm

/-! ## Going through the body -/

/-- No line continuation that begins in the first part goes on into the second one. -/
def Clear (before rest : List Char) : Prop :=
  ∀ start < before.length, before.length < start + continuation.length → ¬ continuation <+: (before ++ rest).drop start

/-- At a place that is clear of what is in front of it, only what follows matters. -/
theorem inContinuation_length_iff {before rest : List Char} (h : Clear before rest) :
    InContinuation (before ++ rest) before.length ↔ LeadsIn rest := by
  constructor
  · rintro ⟨start, -, hbegins, hplace, hblank⟩
    obtain ⟨ahead, rfl⟩ : ∃ ahead, start = before.length + ahead :=
      Nat.exists_eq_add_of_le (Nat.le_of_not_lt fun hlt => h start hlt hplace hbegins)
    rw [List.drop_length_add_append] at hbegins
    rw [List.take_length_add_append, List.drop_left] at hblank
    exact ⟨ahead, hbegins, hblank⟩
  · rintro ⟨ahead, hbegins, hblank⟩
    have hlength := hbegins.length_le
    rw [List.length_drop] at hlength
    refine ⟨before.length + ahead, ?_, ?_, ?_, ?_⟩
    · have hmark : 0 < continuation.length := by decide
      rw [List.length_append]
      omega
    · rwa [List.drop_length_add_append]
    · have hmark : 0 < continuation.length := by decide
      omega
    · rwa [List.take_length_add_append, List.drop_left]

theorem clear_nil (body : List Char) : Clear [] body := fun _ hstart => absurd hstart (Nat.not_lt_zero _)

/-- A character in front of which everything is clear, and at which no line continuation begins, leaves it so. -/
theorem Clear.concat {before rest : List Char} {c : Char} (h : Clear before (c :: rest))
    (hc : ¬ continuation <+: c :: rest) : Clear (before ++ [c]) rest := by
  intro start hstart hplace
  rw [List.length_append, List.length_singleton] at hstart hplace
  rw [List.append_assoc, List.singleton_append]
  rcases Nat.lt_succ_iff_lt_or_eq.1 hstart with hlt | rfl
  · exact h start hlt (by omega)
  · rwa [List.drop_left]

/-- Behind a line continuation all is clear: none begins inside of another. -/
theorem clear_continuation (before rest : List Char) : Clear (before ++ continuation) rest := by
  intro start hstart hplace hbegins
  rw [List.length_append] at hstart hplace
  obtain ⟨ahead, rfl⟩ : ∃ ahead, start = before.length + ahead := Nat.exists_eq_add_of_le (by omega)
  rw [List.append_assoc, List.drop_length_add_append] at hbegins
  have hahead : ahead = 1 ∨ ahead = 2 := by
    have hlength : continuation.length = 3 := rfl
    omega
  obtain ⟨more, hmore⟩ := hbegins
  rcases hahead with rfl | rfl
  · cases hmore
  · cases hmore

theorem inContinuation_mark (before rest : List Char) {ahead : Nat} (h : ahead < continuation.length) :
    InContinuation (before ++ (continuation ++ rest)) (before.length + ahead) := by
  refine ⟨before.length, ?_, ?_, Nat.add_lt_add_left h _, ?_⟩
  · rw [List.length_append, List.length_append]
    omega
  · rw [List.drop_left]
    exact List.prefix_append _ _
  · rw [List.take_left, List.drop_eq_nil_of_le (Nat.le_add_right _ _)]
    exact fun c hc => nomatch hc

/-- The characters of the rest of a body at the places that belong to no line continuation of the whole. -/
def keptBehind (before rest : List Char) : List Char :=
  ((rest.zipIdx before.length).filter fun (_, place) => ¬ InContinuation (before ++ rest) place).map Prod.fst

theorem keptBehind_concat (before rest : List Char) (c : Char) : keptBehind (before ++ [c]) rest =
    ((rest.zipIdx (before.length + 1)).filter
      fun (_, place) => ¬ InContinuation (before ++ c :: rest) place).map Prod.fst := by
  rw [keptBehind, List.append_assoc, List.length_append]
  rfl

theorem keptBehind_cons_of_in {before rest : List Char} {c : Char}
    (h : InContinuation (before ++ c :: rest) before.length) :
    keptBehind before (c :: rest) = keptBehind (before ++ [c]) rest := by
  rw [keptBehind_concat, keptBehind, List.zipIdx_cons, List.filter_cons_of_neg (by rwa [decide_eq_true_iff, not_not])]

theorem keptBehind_cons_of_not_in {before rest : List Char} {c : Char}
    (h : ¬ InContinuation (before ++ c :: rest) before.length) :
    keptBehind before (c :: rest) = c :: keptBehind (before ++ [c]) rest := by
  rw [keptBehind_concat, keptBehind, List.zipIdx_cons, List.filter_cons_of_pos (by rwa [decide_eq_true_iff]),
    List.map_cons]

/-- Within a line continuation, no more of it is kept. -/
theorem keptBehind_continuation (before rest : List Char) {read more : List Char} (h : read ++ more = continuation) :
    keptBehind (before ++ read) (more ++ rest) = keptBehind (before ++ continuation) rest := by
  induction more generalizing read with
  | nil =>
    rw [List.append_nil] at h
    rw [h, List.nil_append]
  | cons c more ih =>
    have hin : InContinuation (before ++ read ++ c :: (more ++ rest)) (before ++ read).length := by
      have hplace : read.length < continuation.length := by
        rw [← h, List.length_append, List.length_cons]
        omega
      have hmark := inContinuation_mark before rest hplace
      rwa [← h, ← List.length_append, List.append_assoc read, ← List.append_assoc before] at hmark
    rw [List.cons_append, keptBehind_cons_of_in hin, List.append_assoc before]
    exact ih (by rw [List.append_assoc]; exact h)

/-- From a place on that is clear of what is in front of it, the characters at the places in no line continuation are
kept. -/
theorem joinLines_eq {before rest : List Char} (h : Clear before rest) : joinLines rest = keptBehind before rest := by
  fun_induction joinLines rest generalizing before with
  | case1 rest ih =>
    have hmark := keptBehind_continuation before rest (List.nil_append continuation)
    rw [List.append_nil] at hmark
    rw [ih (clear_continuation before rest), ← hmark]
    rfl
  | case2 c rest hnot hblank ih =>
    rw [Bool.and_eq_true, isInlineBlank_iff, leadsIntoContinuation_iff] at hblank
    have hplace := (inContinuation_length_iff h).2 (leadsIn_cons_iff.2 (.inr hblank))
    rw [keptBehind_cons_of_in hplace, ih (h.concat (not_prefix_of_ne hnot))]
  | case3 c rest hnot hkeep ih =>
    rw [Bool.and_eq_true, isInlineBlank_iff, leadsIntoContinuation_iff] at hkeep
    have hplace : ¬ InContinuation (before ++ c :: rest) before.length := by
      rw [inContinuation_length_iff h, leadsIn_cons_iff, not_or]
      exact ⟨not_prefix_of_ne hnot, hkeep⟩
    rw [keptBehind_cons_of_not_in hplace, ih (h.concat (not_prefix_of_ne hnot))]
  | case4 => rfl

theorem joinLines_eq_kept (body : List Char) : joinLines body = kept body := joinLines_eq (clear_nil body)

/-! ## The cleaned body -/

theorem isBodyBlank_iff {c : Char} : isBodyBlank c = true ↔ c = ' ' ∨ c = '\t' ∨ c = '\n' := by
  simp [isBodyBlank, or_assoc]

theorem joinLines_of_not_mem {cs : List Char} (h : '!' ∉ cs) : joinLines cs = cs := by
  fun_induction joinLines cs with
  | case1 rest => simp at h
  | case2 c rest _ hblank =>
    -- a line continuation begins with the mark
    rw [Bool.and_eq_true, leadsIntoContinuation, List.isPrefixOf_iff_prefix] at hblank
    have hmark : '!' ∈ rest := (List.dropWhile_suffix _).subset (hblank.2.subset (by decide))
    exact absurd (List.mem_cons_of_mem c hmark) h
  | case3 c rest _ _ ih => rw [ih (List.not_mem_of_not_mem_cons h)]
  | case4 => rfl

/-- A body without the mark of a line continuation, and without blanks at its ends, is clean. -/
theorem cleanBody_of_not_mem {cs : List Char} (hmark : '!' ∉ cs) (hhead : ∀ c ∈ cs.head?, isBodyBlank c = false)
    (hlast : ∀ c ∈ cs.getLast?, isBodyBlank c = false) : cleanBody cs = cs := by
  rw [cleanBody, joinLines_of_not_mem hmark]
  exact trim_eq_iff.2 ⟨[], [], by simp, by simp, hhead, hlast⟩

/-- Cleaning leaves out the places in line continuations, and then the spaces, tabs and line feeds at both ends of what
is left. -/
theorem cleanBody_eq_iff {body out : List Char} : cleanBody body = out ↔
    ∃ front back, kept body = front ++ out ++ back ∧ (∀ c ∈ front ++ back, c = ' ' ∨ c = '\t' ∨ c = '\n') ∧
      (∀ c ∈ out.head?, ¬ (c = ' ' ∨ c = '\t' ∨ c = '\n')) ∧
      ∀ c ∈ out.getLast?, ¬ (c = ' ' ∨ c = '\t' ∨ c = '\n') := by
  simp only [← isBodyBlank_iff, Bool.not_eq_true]
  rw [← joinLines_eq_kept]
  exact trim_eq_iff

example : cleanBody "\n\t  one, \t!>\ntwo,  !>\nthree !> \n\n".toList = "one,two,three !>".toList := by
  decide +kernel

end Block

end Stencil
