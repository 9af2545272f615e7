import Mathlib.Data.List.Basic
import Stencil.Bytes.Base64
/-!
# Reading base64 inverts writing it

A symbol is one octet and has one value, and is not padding. So the groups of four symbols that octets are
written as are read one after another (`decodeGroups_symbols`), and the last group gives back the one or two
octets that are left.
-/

namespace Stencil.Bytes.Base64

/-- The octet of a symbol. -/
def symbolOctet (n : Nat) : UInt8 := .ofNat (symbol n).toNat

theorem utf8EncodeChar_symbol {n : Nat} (h : n < 64) :
    String.utf8EncodeChar (symbol n) = [symbolOctet n] := by
  have hall : ∀ n < 64, String.utf8EncodeChar (symbol n) = [symbolOctet n] := by decide
  exact hall n h

theorem utf8EncodeChar_pad : String.utf8EncodeChar '=' = [pad] := by decide

theorem value?_symbolOctet {n : Nat} (h : n < 64) : value? (symbolOctet n) = some n := by
  have hall : ∀ n < 64, value? (symbolOctet n) = some n := by decide
  exact hall n h

theorem symbolOctet_ne_pad {n : Nat} (h : n < 64) : symbolOctet n ≠ pad := by
  have hall : ∀ n < 64, symbolOctet n ≠ pad := by decide
  exact hall n h

/-! ## Groups -/

section Groups

variable {v w x y : Nat} (hv : v < 64) (hw : w < 64) (hx : x < 64) (hy : y < 64)

include hv hw

/-- Two symbols are one octet, if no bits are left over. -/
theorem decodeLast_two (hbits : w % 16 = 0) (index : Nat) :
    decodeLast index [symbolOctet v, symbolOctet w, pad, pad] = .ok [.ofNat (v * 4 + w / 16)] := by
  simp [decodeLast, values, symbolOctet_ne_pad, value?_symbolOctet, Except.map, hv, hw, hbits]

include hx

/-- Three symbols are two octets, if no bits are left over. -/
theorem decodeLast_three (hbits : x % 4 = 0) (index : Nat) :
    decodeLast index [symbolOctet v, symbolOctet w, symbolOctet x, pad] =
      .ok [.ofNat (v * 4 + w / 16), .ofNat (w % 16 * 16 + x / 4)] := by
  simp [decodeLast, values, symbolOctet_ne_pad, value?_symbolOctet, Except.map, hv, hw, hx, hbits]

include hy

theorem decodeLast_four (index : Nat) :
    decodeLast index [symbolOctet v, symbolOctet w, symbolOctet x, symbolOctet y] = .ok (octets v w x y) := by
  simp [decodeLast, values, symbolOctet_ne_pad, value?_symbolOctet, Except.map, hv, hw, hx, hy]

/-- Four symbols are three octets, and what follows them is read on its own. -/
theorem decodeGroups_symbols (index : Nat) (rest : Bytes) :
    decodeGroups index (symbolOctet v :: symbolOctet w :: symbolOctet x :: symbolOctet y :: rest) =
      (decodeGroups (index + 4) rest).map (octets v w x y ++ ·) := by
  cases rest with
  | nil =>
    have hnone : decodeGroups (index + 4) [] = .ok [] := rfl
    rw [hnone, decodeGroups, decodeLast_four hv hw hx hy]
    · simp [Except.map]
    · simp
  | cons b rest =>
    have hvalues : values index [symbolOctet v, symbolOctet w, symbolOctet x, symbolOctet y] =
        .ok [v, w, x, y] := by
      simp [values, value?_symbolOctet, Except.map, hv, hw, hx, hy]
    rw [decodeGroups, hvalues]

end Groups

/-! ## The whole text -/

/-- The octets of base64 text. -/
def encoded (octets : Bytes) : Bytes := Bytes.ofText (String.ofList (encode octets))

theorem encoded_eq (octets : Bytes) : encoded octets = (encode octets).flatMap String.utf8EncodeChar :=
  ofText_ofList (encode octets)

theorem encoded_nil : encoded [] = [] := encoded_eq []

theorem encoded_one (a : UInt8) :
    encoded [a] = [symbolOctet (a.toNat / 4), symbolOctet (a.toNat % 4 * 16), pad, pad] := by
  have ha := a.toNat_lt
  have hv : a.toNat / 4 < 64 := by omega
  have hw : a.toNat % 4 * 16 < 64 := by omega
  simp [encoded_eq, encode, utf8EncodeChar_symbol hv, utf8EncodeChar_symbol hw, utf8EncodeChar_pad]

theorem encoded_two (a b : UInt8) :
    let n := a.toNat * 256 + b.toNat
    encoded [a, b] = [symbolOctet (n / 1024), symbolOctet (n / 16 % 64), symbolOctet (n % 16 * 4), pad] := by
  intro n
  have ha := a.toNat_lt
  have hb := b.toNat_lt
  have hv : n / 1024 < 64 := by omega
  have hw : n / 16 % 64 < 64 := by omega
  have hx : n % 16 * 4 < 64 := by omega
  simp only [encoded_eq, encode, List.flatMap_cons, List.flatMap_nil, utf8EncodeChar_symbol hv,
    utf8EncodeChar_symbol hw, utf8EncodeChar_symbol hx, utf8EncodeChar_pad, List.singleton_append, n]

theorem encoded_three (a b c : UInt8) (rest : Bytes) :
    let n := a.toNat * 65536 + b.toNat * 256 + c.toNat
    encoded (a :: b :: c :: rest) = symbolOctet (n / 262144) :: symbolOctet (n / 4096 % 64) ::
      symbolOctet (n / 64 % 64) :: symbolOctet (n % 64) :: encoded rest := by
  intro n
  have ha := a.toNat_lt
  have hb := b.toNat_lt
  have hc := c.toNat_lt
  have hv : n / 262144 < 64 := by omega
  have hw : n / 4096 % 64 < 64 := by omega
  have hx : n / 64 % 64 < 64 := by omega
  have hy : n % 64 < 64 := by omega
  simp only [encoded_eq, encode, List.flatMap_cons, utf8EncodeChar_symbol hv, utf8EncodeChar_symbol hw,
    utf8EncodeChar_symbol hx, utf8EncodeChar_symbol hy, List.singleton_append, n]

/-- Base64 text consists of whole groups. -/
theorem length_encoded_mod (octets : Bytes) : (encoded octets).length % 4 = 0 := by
  match octets with
  | [] => simp [encoded_nil]
  | [a] => simp [encoded_one]
  | [a, b] => simp [encoded_two]
  | a :: b :: c :: rest =>
    have ih := length_encoded_mod rest
    rw [encoded_three]
    simp only [List.length_cons]
    omega

/-- Writing makes nothing shorter. -/
theorem length_le_encoded (octets : Bytes) : octets.length ≤ (encoded octets).length := by
  match octets with
  | [] => simp
  | [a] => simp [encoded_one]
  | [a, b] => simp [encoded_two]
  | a :: b :: c :: rest =>
    have ih := length_le_encoded rest
    rw [encoded_three]
    simp only [List.length_cons]
    omega

/-- The numbers of six bits that three octets are cut into give the octets back. -/
theorem octets_sixes (a b c : UInt8) :
    let n := a.toNat * 65536 + b.toNat * 256 + c.toNat
    octets (n / 262144) (n / 4096 % 64) (n / 64 % 64) (n % 64) = [a, b, c] := by
  intro n
  have ha := a.toNat_lt
  have hb := b.toNat_lt
  have hc := c.toNat_lt
  have hfirst : n / 262144 * 4 + n / 4096 % 64 / 16 = a.toNat := by omega
  have hsecond : n / 4096 % 64 % 16 * 16 + n / 64 % 64 / 4 = b.toNat := by omega
  have hthird : n / 64 % 64 % 4 * 64 + n % 64 = c.toNat := by omega
  simp only [octets, hfirst, hsecond, hthird, UInt8.ofNat_toNat]

theorem decodeGroups_encoded (octets : Bytes) (index : Nat) :
    decodeGroups index (encoded octets) = .ok octets := by
  match octets with
  | [] => rw [encoded_nil]; rfl
  | [a] =>
    have ha := a.toNat_lt
    have hfirst : a.toNat / 4 * 4 + a.toNat % 4 * 16 / 16 = a.toNat := by omega
    rw [encoded_one, decodeGroups, decodeLast_two (by omega) (by omega) (by omega), hfirst, UInt8.ofNat_toNat]
    simp
  | [a, b] =>
    have ha := a.toNat_lt
    have hb := b.toNat_lt
    rw [encoded_two]
    generalize hn : a.toNat * 256 + b.toNat = n
    have hfirst : n / 1024 * 4 + n / 16 % 64 / 16 = a.toNat := by omega
    have hsecond : n / 16 % 64 % 16 * 16 + n % 16 * 4 / 4 = b.toNat := by omega
    rw [decodeGroups, decodeLast_three (by omega) (by omega) (by omega) (by omega), hfirst, hsecond,
      UInt8.ofNat_toNat, UInt8.ofNat_toNat]
    simp
  | a :: b :: c :: rest =>
    have ha := a.toNat_lt
    have hb := b.toNat_lt
    have hc := c.toNat_lt
    have ih := decodeGroups_encoded rest (index + 4)
    rw [encoded_three, decodeGroups_symbols (by omega) (by omega) (by omega) (by omega), ih, octets_sixes]
    rfl

/-- The octets that were written are read. -/
theorem decode_encoded (octets : Bytes) : decode (encoded octets) = .ok octets := by
  have hstray : strayEnd? (encoded octets) = none := by
    unfold strayEnd?
    split
    · rw [if_neg fun h => absurd h.1 (by rw [length_encoded_mod]; decide)]
    · rfl
  rw [decode, hstray, decodeGroups_encoded]

end Stencil.Bytes.Base64
