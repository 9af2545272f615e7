import Stencil.Proofs.Bytes.Canonical
import Stencil.Proofs.Output.Writing
/-!
# Armored text

The symbols of base64 and the armor mark have no blank among them, and the opening mark of a block has
one. So whatever octets are armored, no block is found in the text. A file stands for the octets that are decoded
behind the mark, or else for its body (`OutputFile.decodedBody_eq_ok_iff`). Octets are decoded from the text that they
are armored to and from no other one, so a file stands for the octets in its body if and only if it is that text
(`OutputFile.decodedBody_eq_ok_iff_armor`).
-/

namespace Stencil

open Bytes.Base64

theorem symbol_ne_blank (n : Nat) : symbol n ≠ ' ' := by
  have hsmall : ∀ n < 64, symbol n ≠ ' ' := by decide
  by_cases hn : n < 64
  · exact hsmall n hn
  · have hslash : symbol n = '/' := by
      rw [symbol, if_neg (by omega), if_neg (by omega), if_neg (by omega), if_neg (by omega)]
    rw [hslash]
    decide

theorem blank_not_mem_encode (octets : Bytes) : ' ' ∉ encode octets := by
  fun_induction encode octets with
  | case1 a b c rest n ih => simp [ih, (symbol_ne_blank _).symm]
  | case2 a b n => simp [(symbol_ne_blank _).symm]
  | case3 a => simp [(symbol_ne_blank _).symm]
  | case4 => simp

theorem blank_not_mem_armor (octets : Bytes) : ' ' ∉ (armor octets).toList := by
  have hmark : ' ' ∉ armorMark.toList := by decide
  simp [armor, hmark, blank_not_mem_encode]

/-- No octets are armored to a text with a block in it. -/
theorem extractFiles_armor (octets : Bytes) (default : String) :
    extractFiles (armor octets) default = [] := by
  apply extractChars_of_not_infix
  intro h
  have hblank : ' ' ∈ Block.opening := by decide
  exact blank_not_mem_armor octets (h.subset hblank)

/-! ## What armored text stands for -/

theorem ofText_armor (octets : Bytes) :
    Bytes.ofText (armor octets) = Bytes.ofText armorMark ++ encoded octets := by
  rw [armor, Bytes.ofText_append, encoded]

namespace OutputFile

theorem decodedBody_eq_ok_iff {f : OutputFile} {contents : Bytes} : f.decodedBody = .ok contents ↔
    ¬ Bytes.ofText armorMark <+: f.body ∧ contents = f.body ∨
      ∃ encoded, f.body = Bytes.ofText armorMark ++ encoded ∧ decode encoded = .ok contents := by
  unfold decodedBody
  cases hp : (Bytes.ofText armorMark).isPrefixOf? f.body with
  | none =>
    have hnone := Text.isPrefixOf?_eq_none_iff.1 hp
    constructor
    · intro h
      cases h
      exact .inl ⟨hnone, rfl⟩
    · rintro (⟨-, rfl⟩ | ⟨encoded, hbody, -⟩)
      · rfl
      · exact absurd ⟨encoded, hbody.symm⟩ hnone
  | some encoded =>
    have hbody := List.isPrefixOf?_eq_some_iff_append_eq.1 hp
    constructor
    · exact fun h => .inr ⟨encoded, hbody.symm, h⟩
    · rintro (⟨hnone, -⟩ | ⟨encoded', hbody', h⟩)
      · exact absurd ⟨encoded, hbody⟩ hnone
      · rw [← hbody, List.append_cancel_left_eq] at hbody'
        rwa [hbody']

/-- A file with an armored body stands for the octets in it. -/
theorem decodedBody_armor {f : OutputFile} {octets : Bytes} (h : f.body = Bytes.ofText (armor octets)) :
    f.decodedBody = .ok octets :=
  decodedBody_eq_ok_iff.2 (.inr ⟨encoded octets, by rw [h, ofText_armor], decode_encoded octets⟩)

/-- What follows the mark is shorter than the body, and so is what it decodes to. -/
theorem decode_ne_body {f : OutputFile} {encoded contents : Bytes} (hbody : f.body = Bytes.ofText armorMark ++ encoded)
    (h : decode encoded = .ok contents) : contents ≠ f.body := by
  intro heq
  have hshort := length_le_encoded contents
  rw [← decode_eq_ok_iff.1 h] at hshort
  have hmark : 0 < (Bytes.ofText armorMark).length := by decide
  rw [heq, hbody, List.length_append] at hshort
  omega

/-- What a file stands for, by what its body is: the octets that are armored in it, or the body itself if it does not
begin with the mark. Armored octets are the mark and their base64 text. -/
theorem decodedBody_eq_ok_iff_armor (f : OutputFile) (contents : Bytes) :
    (f.decodedBody = .ok contents ↔
      ¬ Bytes.ofText armorMark <+: f.body ∧ contents = f.body ∨ f.body = Bytes.ofText (armor contents)) ∧
    ∀ text : String, armor contents = armorMark ++ text ↔ IsBase64 contents text.toList := by
  constructor
  · rw [decodedBody_eq_ok_iff, ofText_armor]
    simp only [decode_eq_ok_iff, exists_eq_right]
  · intro text
    rw [isBase64_iff, armor, String.append_right_inj, ← String.toList_inj, String.toList_ofList]
    exact eq_comm

end OutputFile

end Stencil
