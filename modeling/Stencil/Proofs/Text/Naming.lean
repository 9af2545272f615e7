import Mathlib.Data.List.Forall2
import Stencil.Text.Naming
/-!
# Names without what cannot stand in them

A name is cleaned by leaving characters out. `SameBut` says that two texts are the same but for characters without a
property, wherever these stand and however many there are. The cleaned name is the one of these texts that has no such
character (`cleanName_eq_iff`), so two names are cleaned to the same one exactly if they are the same but for characters
that cannot stand in a name (`cleanName_eq_cleanName_iff`).
-/

namespace Stencil.Text

/-! ## Texts that are the same but for some characters -/

/-- The two texts are the same but for characters that do not have the property. -/
inductive SameBut (p : Char → Prop) : List Char → List Char → Prop
  | nil : SameBut p [] []
  | cons (c : Char) {s t : List Char} : SameBut p s t → SameBut p (c :: s) (c :: t)
  | left {c : Char} {s t : List Char} : ¬ p c → SameBut p s t → SameBut p (c :: s) t
  | right {c : Char} {s t : List Char} : ¬ p c → SameBut p s t → SameBut p s (c :: t)

/-- The second text is the first one without the characters that do not have the property. -/
def Keeps (p : Char → Prop) (s t : String) : Prop := (∀ c ∈ t.toList, p c) ∧ SameBut p s.toList t.toList

theorem SameBut.of_forall_not {p : Char → Prop} {t : List Char} (h : ∀ c ∈ t, ¬ p c) : SameBut p [] t := by
  induction t with
  | nil => exact .nil
  | cons c t ih =>
    rw [List.forall_mem_cons] at h
    exact .right h.1 (ih h.2)

section Filter

variable {p : Char → Prop} [DecidablePred p] {s t : List Char}

/-- Texts are the same but for some characters exactly if the others are the same in the same order. -/
theorem sameBut_iff : SameBut p s t ↔ s.filter p = t.filter p := by
  constructor
  · intro h
    induction h with
    | nil => rfl
    | cons c _ ih => by_cases hc : p c <;> simp [hc, ih]
    | left hc _ ih => rwa [List.filter_cons_of_neg (by simpa using hc)]
    | right hc _ ih => rwa [List.filter_cons_of_neg (by simpa using hc)]
  · intro h
    induction s generalizing t with
    | nil => exact .of_forall_not fun c hc => by simpa using List.filter_eq_nil_iff.1 h.symm c hc
    | cons c s ih =>
      by_cases hc : p c
      · -- the same character is kept first in the other text, behind some that are not
        induction t with
        | nil => simp [hc] at h
        | cons d t iht =>
          by_cases hd : p d
          · simp only [hc, hd, decide_true, List.filter_cons_of_pos, List.cons.injEq] at h
            obtain ⟨rfl, h⟩ := h
            exact .cons c (ih h)
          · exact .right hd (iht (by simpa [hd] using h))
      · exact .left hc (ih (by simpa [hc] using h))

instance : Decidable (SameBut p s t) := decidable_of_iff _ sameBut_iff.symm

theorem keeps_iff {s t : String} : Keeps p s t ↔ t = String.ofList (s.toList.filter p) := by
  rw [Keeps, sameBut_iff, ← String.toList_inj, String.toList_ofList]
  constructor
  · rintro ⟨hall, hsame⟩
    rw [hsame, List.filter_eq_self.2 (by simpa using hall)]
  · intro ht
    rw [ht]
    simp

end Filter

/-! ## Names -/

/-- A character of `[A-Za-z0-9_]`. -/
def IsIdentifierChar (c : Char) : Prop :=
  'A' ≤ c ∧ c ≤ 'Z' ∨ 'a' ≤ c ∧ c ≤ 'z' ∨ '0' ≤ c ∧ c ≤ '9' ∨ c = '_'

/-- A character of `[A-Za-z0-9_.]`. -/
def IsPackageChar (c : Char) : Prop := IsIdentifierChar c ∨ c = '.'

instance : DecidablePred IsIdentifierChar := fun c =>
  inferInstanceAs (Decidable ('A' ≤ c ∧ c ≤ 'Z' ∨ 'a' ≤ c ∧ c ≤ 'z' ∨ '0' ≤ c ∧ c ≤ '9' ∨ c = '_'))

instance : DecidablePred IsPackageChar := fun c => inferInstanceAs (Decidable (IsIdentifierChar c ∨ c = '.'))

theorem isNameChar_iff {c : Char} : isNameChar c = true ↔ IsIdentifierChar c := by
  have hname : isNameChar c = (c.isUpper || c.isLower || c.isDigit || c == '_') := rfl
  have hupper : c.isUpper = decide ('A' ≤ c ∧ c ≤ 'Z') := rfl
  have hlower : c.isLower = (decide ('a' ≤ c) && decide (c ≤ 'z')) := rfl
  have hdigit : c.isDigit = (decide ('0' ≤ c) && decide (c ≤ '9')) := rfl
  simp [hname, hupper, hlower, hdigit, IsIdentifierChar, or_assoc]

/-- The cleaned name keeps the characters of names, in their order, and no others. -/
theorem cleanName_eq_iff {s t : String} : cleanName s = t ↔ Keeps IsIdentifierChar s t := by
  have hfilter : s.toList.filter isNameChar = s.toList.filter IsIdentifierChar :=
    List.filter_congr fun c _ => by rw [Bool.eq_iff_iff, isNameChar_iff, decide_eq_true_iff]
  rw [keeps_iff, cleanName, hfilter, eq_comm]

theorem keeps_cleanName (s : String) : Keeps IsIdentifierChar s (cleanName s) := cleanName_eq_iff.1 rfl

/-- Two names are cleaned to the same one exactly if they are the same but for characters that cannot stand in one. -/
theorem cleanName_eq_cleanName_iff {s t : String} :
    cleanName s = cleanName t ↔ SameBut IsIdentifierChar s.toList t.toList := by
  rw [cleanName_eq_iff, Keeps, sameBut_iff, sameBut_iff, sameBut_iff.1 (keeps_cleanName t).2]
  exact and_iff_right (keeps_cleanName t).1

/-- Cleaning leaves a name alone that has no other characters. -/
theorem cleanName_eq_self_iff {s : String} : cleanName s = s ↔ ∀ c ∈ s.toList, IsIdentifierChar c := by
  rw [cleanName_eq_iff, Keeps, sameBut_iff]
  exact and_iff_left rfl

theorem cleanName_cleanName (s : String) : cleanName (cleanName s) = cleanName s :=
  cleanName_eq_self_iff.2 (keeps_cleanName s).1

/-! ## Packages -/

/-- The package name is not empty and has only characters of packages. It keeps all of these, and is `com.example` if
there are none. -/
def KeepsPackage (s t : String) : Prop :=
  t ≠ "" ∧ (∀ c ∈ t.toList, IsPackageChar c) ∧
    (Keeps IsPackageChar s t ∨ Keeps IsPackageChar s "" ∧ t = "com.example")

theorem cleanPackageName_eq_iff {s t : String} : cleanPackageName s = t ↔ KeepsPackage s t := by
  have hfilter : (s.toList.filter fun c => isNameChar c || c == '.') = s.toList.filter IsPackageChar :=
    List.filter_congr fun c _ => by
      rw [Bool.eq_iff_iff, Bool.or_eq_true, isNameChar_iff, beq_iff_eq, decide_eq_true_iff, IsPackageChar]
  have hkept : ∀ u, Keeps IsPackageChar s u ↔ String.ofList (s.toList.filter IsPackageChar) = u :=
    fun u => keeps_iff.trans eq_comm
  simp only [KeepsPackage, hkept, cleanPackageName, hfilter]
  by_cases hnone : s.toList.filter IsPackageChar = []
  · have hdefault : ∀ c ∈ "com.example".toList, IsPackageChar c := by
      simp [IsPackageChar, IsIdentifierChar]
    rw [if_pos (by rw [hnone]; rfl), hnone]
    constructor
    · rintro rfl
      exact ⟨by decide, hdefault, .inr ⟨rfl, rfl⟩⟩
    · rintro ⟨hne, -, hempty | ⟨-, rfl⟩⟩
      · exact absurd hempty.symm hne
      · rfl
  · rw [if_neg (by simpa using hnone)]
    have hne : String.ofList (s.toList.filter IsPackageChar) ≠ "" := by simpa [← String.toList_inj] using hnone
    constructor
    · rintro rfl
      exact ⟨hne, by simp, .inl rfl⟩
    · rintro ⟨-, -, ht | ⟨hempty, -⟩⟩
      · exact ht
      · exact absurd hempty hne

theorem keepsPackage_cleanPackageName (s : String) : KeepsPackage s (cleanPackageName s) :=
  cleanPackageName_eq_iff.1 rfl

theorem cleanPackageName_cleanPackageName (s : String) :
    cleanPackageName (cleanPackageName s) = cleanPackageName s := by
  obtain ⟨hne, hall, -⟩ := keepsPackage_cleanPackageName s
  exact cleanPackageName_eq_iff.2 ⟨hne, hall, .inl ⟨hall, sameBut_iff.2 rfl⟩⟩

/-- The path has a `/` for every full stop of the package name, and all its other characters. -/
theorem packagePath_eq_iff {package path : String} : packagePath package = path ↔
    List.Forall₂ (fun c d => d = if c = '.' then '/' else c) package.toList path.toList := by
  rw [packagePath, replaceChar, ← String.toList_inj, String.toList_ofList, ← List.forall₂_eq_eq_eq,
    List.forall₂_map_left_iff]
  simp only [eq_comm]

end Stencil.Text
