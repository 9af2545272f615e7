import Mathlib.Data.String.Basic
import Stencil.Bytes.Basic
/-!
# The order of texts is that of their octets

UTF-8 keeps the order of characters: the first octet tells how many there are, and more of them stand for greater
characters; of as many, the octets are the digits of the character in base 64. So texts that are compared octet by octet
and texts that are compared character by character stand in the same order.
-/

namespace Stencil.Bytes

/-- The octets of the smaller of two characters come first, whatever follows them. -/
theorem utf8EncodeChar_append_lt {c d : Char} (h : c < d) (x y : Bytes) :
    String.utf8EncodeChar c ++ x < String.utf8EncodeChar d ++ y := by
  have hcd : c.val.toNat < d.val.toNat := h
  have hd : d.val.toNat < 1114112 := by
    rcases d.valid with hd | hd
    · exact Nat.lt_trans hd (by decide)
    · exact hd.2
  unfold String.utf8EncodeChar
  generalize c.val.toNat = v at hcd
  generalize d.val.toNat = w at hcd hd
  have hdigits : ∀ n, n / 4096 = n / 64 / 64 ∧ n / 262144 = n / 64 / 64 / 64 := by omega
  -- The octets differ for the first time in the first one, or where the digits do.
  have hfirst : v / 64 / 64 / 64 < w / 64 / 64 / 64 ∨
      v / 64 / 64 / 64 = w / 64 / 64 / 64 ∧ (v / 64 / 64 % 64 < w / 64 / 64 % 64 ∨
        v / 64 / 64 = w / 64 / 64 ∧ (v / 64 % 64 < w / 64 % 64 ∨ v / 64 = w / 64 ∧ v % 64 < w % 64)) := by
    omega
  simp only [(hdigits _).1, (hdigits _).2]
  split_ifs <;>
    simp only [List.cons_append, List.nil_append, List.cons_lt_cons_iff, UInt8.lt_iff_toNat_lt, ← UInt8.toNat_inj,
      UInt8.toNat_ofNat'] <;>
    omega

theorem utf8EncodeChar_append_pos (c : Char) (x : Bytes) : [] < String.utf8EncodeChar c ++ x := by
  cases hc : String.utf8EncodeChar c ++ x with
  | nil => simp at hc
  | cons b bytes => exact List.nil_lt_cons b bytes

theorem flatMap_utf8EncodeChar_lt {cs ds : List Char} (h : cs < ds) :
    cs.flatMap String.utf8EncodeChar < ds.flatMap String.utf8EncodeChar := by
  induction cs generalizing ds with
  | nil =>
    cases ds with
    | nil => exact absurd h (List.lt_irrefl [])
    | cons d ds => exact utf8EncodeChar_append_pos d _
  | cons c cs ih =>
    cases ds with
    | nil => cases h
    | cons d ds =>
      rw [List.flatMap_cons, List.flatMap_cons]
      rcases List.cons_lt_cons_iff.1 h with hcd | ⟨rfl, hrest⟩
      · exact utf8EncodeChar_append_lt hcd _ _
      · exact List.append_left_lt (ih hrest)

/-- A text that comes before another one has octets that come before those of the other one. -/
theorem ofText_lt_ofText {s t : String} (h : s < t) : ofText s < ofText t := by
  rw [← String.ofList_toList (s := s), ← String.ofList_toList (s := t), ofText_ofList, ofText_ofList]
  exact flatMap_utf8EncodeChar_lt (String.lt_iff_toList_lt.1 h)

end Stencil.Bytes
