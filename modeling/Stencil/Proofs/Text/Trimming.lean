import Mathlib.Data.List.DropRight
import Mathlib.Data.List.TakeWhile
import Stencil.Text.Scan
/-!
# Texts without their ends

Trimming takes characters of a class away at both ends and stops at the first that is not in the class. What is left is
the only middle part with nothing but such characters around it and none at its own ends (`trim_eq_iff`).
-/

namespace Stencil.Text

variable {p : Char → Bool}

/-! ## At the end -/

/-- The last character that stays keeps all in front of it. -/
theorem rdropWhile_append_cons {c : Char} (hc : p c = false) (cs ds : List Char) :
    (cs ++ c :: ds).rdropWhile p = cs ++ c :: ds.rdropWhile p := by
  have hreverse : (cs ++ c :: ds).reverse = ds.reverse ++ c :: cs.reverse := by simp
  rw [List.rdropWhile, List.rdropWhile, hreverse, List.dropWhile_append, List.dropWhile_cons_of_neg (by simp [hc])]
  split
  · next h =>
    rw [List.isEmpty_iff.1 h]
    simp
  · simp

/-- Nothing is dropped if the last character stays. -/
theorem rdropWhile_eq_iff {cs : List Char} : cs.rdropWhile p = cs ↔ ∀ c ∈ cs.getLast?, p c = false := by
  rcases List.eq_nil_or_concat' cs with rfl | ⟨init, c, rfl⟩
  · simp
  · simp [List.rdropWhile_eq_self_iff]

theorem rdropWhile_append_of_pos {ds : List Char} (h : ∀ d ∈ ds, p d = true) (cs : List Char) :
    (cs ++ ds).rdropWhile p = cs.rdropWhile p := by
  rw [List.rdropWhile, List.reverse_append, List.dropWhile_append_of_pos (by simpa using h), List.rdropWhile]

/-! ## At both ends -/

theorem dropWhile_eq_iff {cs : List Char} : cs.dropWhile p = cs ↔ ∀ c ∈ cs.head?, p c = false := by
  cases cs with
  | nil => simp
  | cons c cs => simp [List.dropWhile_eq_self_iff]

theorem head?_dropWhile (cs : List Char) : ∀ c ∈ (cs.dropWhile p).head?, p c = false :=
  dropWhile_eq_iff.1 (List.dropWhile_idempotent p _)

theorem getLast?_rdropWhile (cs : List Char) : ∀ c ∈ (cs.rdropWhile p).getLast?, p c = false :=
  rdropWhile_eq_iff.1 (List.rdropWhile_idempotent p cs)

/-- What trimming leaves, told by what stands around it. -/
theorem trim_eq_iff {cs out : List Char} : trim p cs = out ↔
    ∃ front back, cs = front ++ out ++ back ∧ (∀ c ∈ front ++ back, p c = true) ∧
      (∀ c ∈ out.head?, p c = false) ∧ ∀ c ∈ out.getLast?, p c = false := by
  have htrim : ∀ ds, trim p ds = (ds.dropWhile p).rdropWhile p := fun _ => rfl
  rw [htrim]
  constructor
  · rintro rfl
    have hback : (cs.dropWhile p).rdropWhile p ++ (cs.dropWhile p).rtakeWhile p = cs.dropWhile p :=
      List.rdropWhile_append_rtakeWhile
    refine ⟨cs.takeWhile p, (cs.dropWhile p).rtakeWhile p, ?_, ?_, ?_, getLast?_rdropWhile _⟩
    · rw [List.append_assoc, hback, List.takeWhile_append_dropWhile]
    · exact List.forall_mem_append.2 ⟨fun c => List.mem_takeWhile_imp, fun c => List.mem_rtakeWhile_imp⟩
    · -- what is left begins where the rest without the front does
      intro c hc
      obtain ⟨more, hmore⟩ := List.rdropWhile_prefix p (cs.dropWhile p)
      refine head?_dropWhile cs c ?_
      rw [← hmore, List.head?_append, hc]
      rfl
  · rintro ⟨front, back, rfl, haround, hhead, hlast⟩
    rw [List.forall_mem_append] at haround
    rw [List.append_assoc, List.dropWhile_append_of_pos haround.1]
    cases out with
    | nil => rw [List.nil_append, List.dropWhile_eq_nil_iff.2 haround.2, List.rdropWhile_nil]
    | cons c out =>
      rw [dropWhile_eq_iff.2 (by simpa using hhead), rdropWhile_append_of_pos haround.2, rdropWhile_eq_iff.2 hlast]

end Stencil.Text
