import Mathlib.Algebra.Ring.Nat
import Mathlib.Data.List.Basic
import Stencil.Proofs.Bytes.Base64
/-!
# The one base64 text of given octets

`IsBase64` says by bits what it is to write octets in base64: the bits of the symbols are those of the octets, filled up
with zeros to a whole symbol, and padding fills the symbols up to whole groups. `encode` writes such a text, and there
is no other one (`isBase64_iff`). Reading is strict about it: octets are read from that text alone
(`decode_eq_ok_iff`). A group with padding missing, or with bits in its last symbol that belong to no octet, would
otherwise be a second text of the same octets.
-/

namespace Stencil.Bytes.Base64

/-! ## What is read was written -/

theorem eq_symbolOctet {b : UInt8} {v : Nat} (h : value? b = some v) : v < 64 ∧ b = symbolOctet v := by
  have hall : ∀ n < 256, ∀ v ∈ value? (.ofNat n), v < 64 ∧ .ofNat n = symbolOctet v := by decide +kernel
  have hb := hall b.toNat b.toNat_lt
  rw [UInt8.ofNat_toNat] at hb
  exact hb v h

theorem eq_map_symbolOctet {index : Nat} {bytes : Bytes} {vs : List Nat} (h : values index bytes = .ok vs) :
    (∀ v ∈ vs, v < 64) ∧ bytes = vs.map symbolOctet := by
  induction bytes generalizing index vs with
  | nil =>
    cases h
    simp
  | cons b bytes ih =>
    rw [values] at h
    cases hb : value? b with
    | none => simp [hb] at h
    | some v =>
      cases hvs : values (index + 1) bytes with
      | error fault => simp [hb, hvs, Except.map] at h
      | ok ws =>
        simp only [hb, hvs, Except.map, Except.ok.injEq] at h
        subst h
        obtain ⟨hws, rfl⟩ := ih hvs
        obtain ⟨hv, rfl⟩ := eq_symbolOctet hb
        exact ⟨List.forall_mem_cons.2 ⟨hv, hws⟩, rfl⟩

section Groups

variable {v w x y : Nat} (hv : v < 64) (hw : w < 64) (hx : x < 64) (hy : y < 64)

include hv hw

/-- One octet in front of four zeros is written as two symbols. -/
theorem encoded_of_two (hbits : w % 16 = 0) :
    encoded [.ofNat (v * 4 + w / 16)] = [symbolOctet v, symbolOctet w, pad, pad] := by
  have ha : v * 4 + w / 16 < 256 := by omega
  have hfirst : (v * 4 + w / 16) / 4 = v := by omega
  have hsecond : (v * 4 + w / 16) % 4 * 16 = w := by omega
  rw [encoded_one, UInt8.toNat_ofNat_of_lt' ha, hfirst, hsecond]

include hx

/-- Two octets in front of two zeros are written as three symbols. -/
theorem encoded_of_three (hbits : x % 4 = 0) :
    encoded [.ofNat (v * 4 + w / 16), .ofNat (w % 16 * 16 + x / 4)] =
      [symbolOctet v, symbolOctet w, symbolOctet x, pad] := by
  have ha : v * 4 + w / 16 < 256 := by omega
  have hb : w % 16 * 16 + x / 4 < 256 := by omega
  rw [encoded_two, UInt8.toNat_ofNat_of_lt' ha, UInt8.toNat_ofNat_of_lt' hb]
  generalize hn : (v * 4 + w / 16) * 256 + (w % 16 * 16 + x / 4) = n
  have hfirst : n / 1024 = v := by omega
  have hsecond : n / 16 % 64 = w := by omega
  have hthird : n % 16 * 4 = x := by omega
  rw [hfirst, hsecond, hthird]

include hy

/-- Three octets are written as four symbols. -/
theorem encoded_octets (rest : Bytes) : encoded (octets v w x y ++ rest) =
    symbolOctet v :: symbolOctet w :: symbolOctet x :: symbolOctet y :: encoded rest := by
  have ha : v * 4 + w / 16 < 256 := by omega
  have hb : w % 16 * 16 + x / 4 < 256 := by omega
  have hc : x % 4 * 64 + y < 256 := by omega
  rw [octets, List.cons_append, List.cons_append, List.cons_append, List.nil_append, encoded_three,
    UInt8.toNat_ofNat_of_lt' ha, UInt8.toNat_ofNat_of_lt' hb, UInt8.toNat_ofNat_of_lt' hc]
  generalize hn : (v * 4 + w / 16) * 65536 + (w % 16 * 16 + x / 4) * 256 + (x % 4 * 64 + y) = n
  have hfirst : n / 262144 = v := by omega
  have hsecond : n / 4096 % 64 = w := by omega
  have hthird : n / 64 % 64 = x := by omega
  have hfourth : n % 64 = y := by omega
  rw [hfirst, hsecond, hthird, hfourth]

end Groups

/-- The last group is what its octets are written as: its values and the length of its padding say which of the four
ways it is. -/
theorem eq_encoded_of_decodeLast {index : Nat} {group out : Bytes} (hlength : group.length ≤ 4)
    (h : decodeLast index group = .ok out) : group = encoded out := by
  have hgroup := List.prefix_iff_eq_append.1 (List.takeWhile_prefix (l := group) (· != pad))
  unfold decodeLast at h
  simp only at h
  generalize group.takeWhile (· != pad) = symbols at h hgroup
  generalize group.drop symbols.length = padding at h hgroup
  subst hgroup
  split at h
  · cases h
  · next vs hvs =>
    obtain ⟨hvalue, rfl⟩ := eq_map_symbolOctet hvs
    split at h
    · cases h
    · next hpadding =>
      simp only [Bool.and_eq_true, Bool.not_eq_true', List.isEmpty_eq_false_iff, Bool.or_eq_true, decide_eq_true_eq,
        List.any_eq_true, bne_iff_ne, List.length_map, not_and, not_or, not_exists, Nat.not_lt, not_not] at hpadding
      have hpads : padding = List.replicate padding.length pad :=
        List.eq_replicate_iff.2 ⟨rfl, fun b hb => (hpadding (List.ne_nil_of_mem hb)).2 b hb⟩
      split at h
      · next =>
        cases h
        have hnone : padding = [] := by
          by_contra hne
          exact absurd (hpadding hne).1 (by decide)
        rw [hnone, encoded_nil]
        rfl
      · cases h
      · next v w htwo =>
        simp only [List.forall_mem_cons] at hvalue
        rw [htwo] at hpads
        split at h
        · next hbits =>
          cases h
          rw [encoded_of_two hvalue.1 hvalue.2.1 hbits, hpads]
          rfl
        · cases h
      · next v w x hone =>
        simp only [List.forall_mem_cons] at hvalue
        rw [hone] at hpads
        split at h
        · next hbits =>
          cases h
          rw [encoded_of_three hvalue.1 hvalue.2.1 hvalue.2.2.1 hbits, hpads]
          rfl
        · cases h
      · next v w x y more =>
        cases h
        simp only [List.forall_mem_cons] at hvalue
        have hrest : more = [] ∧ padding = [] := by
          simp only [List.map_cons, List.length_append, List.length_cons, List.length_map] at hlength
          exact ⟨List.eq_nil_of_length_eq_zero (by omega), List.eq_nil_of_length_eq_zero (by omega)⟩
        have hout := encoded_octets hvalue.1 hvalue.2.1 hvalue.2.2.1 hvalue.2.2.2.1 []
        rw [hrest.1, hrest.2, ← List.append_nil (octets v w x y), hout, encoded_nil]
        rfl
      · cases h

theorem eq_encoded_of_decodeGroups {index : Nat} {bytes out : Bytes} (h : decodeGroups index bytes = .ok out) :
    bytes = encoded out := by
  fun_induction decodeGroups index bytes generalizing out with
  | case1 index a b c d e rest v w x y hvs ih =>
    obtain ⟨hvalue, hgroup⟩ := eq_map_symbolOctet hvs
    simp only [List.forall_mem_cons] at hvalue
    cases hrest : decodeGroups (index + 4) (e :: rest) with
    | error fault =>
      rw [hrest] at h
      cases h
    | ok more =>
      rw [hrest] at h
      cases h
      rw [encoded_octets hvalue.1 hvalue.2.1 hvalue.2.2.1 hvalue.2.2.2.1, ← ih hrest]
      exact congrArg (· ++ e :: rest) hgroup
  | case2 => cases h
  | case3 => cases h
  | case4 index group hshort =>
    refine eq_encoded_of_decodeLast ?_ h
    rcases group with _ | ⟨a, _ | ⟨b, _ | ⟨c, _ | ⟨d, _ | ⟨e, rest⟩⟩⟩⟩⟩
    on_goal 6 => exact (hshort a b c d e rest rfl).elim
    all_goals simp

/-- Octets are read from what they are written as, and from nothing else. -/
theorem decode_eq_ok_iff {bytes out : Bytes} : decode bytes = .ok out ↔ bytes = encoded out := by
  constructor
  · intro h
    unfold decode at h
    split at h
    · cases h
    · exact eq_encoded_of_decodeGroups h
  · rintro rfl
    exact decode_encoded out

example : decode (ofText "QUI=") = .ok [65, 66] := by decide

example : decode (ofText "QUI") = .error .padding := by decide

example : decode (ofText "QUJ=") = .error (.lastSymbol 74 2) := by decide

/-! ## Bits -/

/-- The lowest bits of a number, the highest of them first. -/
def bits : Nat → Nat → List Bool
  | 0, _ => []
  | width + 1, n => bits width (n / 2) ++ [decide (n % 2 = 1)]

theorem length_bits (width n : Nat) : (bits width n).length = width := by
  induction width generalizing n with
  | zero => rfl
  | succ width ih => rw [bits, List.length_append, ih, List.length_singleton]

/-- The bits of two numbers one after the other are those of one number. -/
theorem bits_append {low m : Nat} (h : m < 2 ^ low) (high k : Nat) :
    bits high k ++ bits low m = bits (high + low) (k * 2 ^ low + m) := by
  induction low generalizing m with
  | zero =>
    have hm : m = 0 := by omega
    rw [hm, bits, List.append_nil, Nat.pow_zero, Nat.mul_one]
    rfl
  | succ low ih =>
    rw [Nat.pow_succ] at h ⊢
    have hrest : (k * (2 ^ low * 2) + m) / 2 = k * 2 ^ low + m / 2 := by
      rw [← Nat.mul_assoc]
      omega
    have hlast : (k * (2 ^ low * 2) + m) % 2 = m % 2 := by
      rw [← Nat.mul_assoc]
      omega
    rw [bits, ← List.append_assoc, ih (by omega), ← Nat.add_assoc, bits, hrest, hlast]

theorem bits_zero (width : Nat) : bits width 0 = List.replicate width false := by
  induction width with
  | zero => rfl
  | succ width ih => rw [bits, Nat.zero_div, ih, List.replicate_succ']; rfl

theorem bits_inj {width n m : Nat} (hn : n < 2 ^ width) (hm : m < 2 ^ width) :
    bits width n = bits width m ↔ n = m := by
  refine ⟨fun h => ?_, fun h => congrArg _ h⟩
  induction width generalizing n m with
  | zero => omega
  | succ width ih =>
    rw [Nat.pow_succ] at hn hm
    obtain ⟨hrest, hlast⟩ := List.append_inj' h rfl
    have hhalf := ih (by omega) (by omega) hrest
    have hparity : n % 2 = 1 ↔ m % 2 = 1 := decide_eq_decide.1 (List.cons.inj hlast).1
    omega

/-- The bits of octets one after the other. -/
def bitsOf (octets : Bytes) : List Bool := octets.flatMap fun b => bits 8 b.toNat

/-- The bits of values of six bits one after the other. -/
def sixes (vs : List Nat) : List Bool := vs.flatMap (bits 6)

theorem length_sixes (vs : List Nat) : (sixes vs).length = 6 * vs.length := by
  simp [sixes, List.length_flatMap, length_bits, Nat.mul_comm]

theorem length_bitsOf (octets : Bytes) : (bitsOf octets).length = 8 * octets.length := by
  simp [bitsOf, List.length_flatMap, length_bits, Nat.mul_comm]

theorem sixes_inj {vs ws : List Nat} (hvs : ∀ v ∈ vs, v < 64) (hws : ∀ w ∈ ws, w < 64) (h : sixes vs = sixes ws) :
    vs = ws := by
  have hlength : vs.length = ws.length := by
    have hsixes := congrArg List.length h
    rw [length_sixes, length_sixes] at hsixes
    omega
  induction vs generalizing ws with
  | nil => exact (List.eq_nil_of_length_eq_zero hlength.symm).symm
  | cons v vs ih =>
    obtain ⟨w, ws, rfl⟩ := List.exists_cons_of_length_eq_add_one hlength.symm
    rw [List.forall_mem_cons] at hvs hws
    obtain ⟨hfirst, hrest⟩ := List.append_inj h (by rw [length_bits, length_bits])
    rw [(bits_inj hvs.1 hws.1).1 hfirst, ih hvs.2 hws.2 hrest (Nat.succ.inj hlength)]

/-! ## The text of given octets -/

/-- The symbols in the order of their values. -/
def alphabet : List Char := "ABCDEFGHIJKLMNOPQRSTUVWXYZabcdefghijklmnopqrstuvwxyz0123456789+/".toList

theorem alphabet_getElem? {v : Nat} (hv : v < 64) : alphabet[v]? = some (symbol v) := by
  have hall : ∀ v < 64, alphabet[v]? = some (symbol v) := by decide
  exact hall v hv

theorem alphabet_getElem?_eq_none {v : Nat} (hv : ¬ v < 64) : alphabet[v]? = none := by
  have hlength : alphabet.length = 64 := by decide
  exact List.getElem?_eq_none (by omega)

/-- The text consists of the symbols of the values and of padding, and the values have the bits of the octets, with
zeros behind them. There are no more zeros than the last symbol needs, and no more padding than the last group does. -/
structure Writes (octets : Bytes) (text : List Char) (vs : List Nat) (zeros pads : Nat) : Prop where
  text_eq : text.map some = vs.map (alphabet[·]?) ++ List.replicate pads (some '=')
  bits_eq : sixes vs = bitsOf octets ++ List.replicate zeros false
  zeros_lt : zeros < 6
  pads_lt : pads < 4
  groups : (vs.length + pads) % 4 = 0

/-- The text is the octets in base64. -/
def IsBase64 (octets : Bytes) (text : List Char) : Prop := ∃ vs zeros pads, Writes octets text vs zeros pads

theorem Writes.value_lt {octets : Bytes} {text : List Char} {vs : List Nat} {zeros pads : Nat}
    (h : Writes octets text vs zeros pads) : ∀ v ∈ vs, v < 64 := by
  intro v hv
  by_contra hlt
  have hnone : none ∈ text.map some := by
    rw [h.text_eq, ← alphabet_getElem?_eq_none hlt]
    exact List.mem_append_left _ (List.mem_map_of_mem hv)
  simp at hnone

/-- The octets say how many symbols there are, and so how many zeros and how much padding. -/
theorem IsBase64.unique {octets : Bytes} {text text' : List Char} (h : IsBase64 octets text)
    (h' : IsBase64 octets text') : text = text' := by
  obtain ⟨vs, zeros, pads, h⟩ := h
  obtain ⟨vs', zeros', pads', h'⟩ := h'
  have hlength := congrArg List.length h.bits_eq
  have hlength' := congrArg List.length h'.bits_eq
  rw [length_sixes, List.length_append, length_bitsOf, List.length_replicate] at hlength hlength'
  have hzeros := h.zeros_lt
  have hzeros' := h'.zeros_lt
  obtain rfl : zeros = zeros' := by omega
  obtain rfl : vs = vs' := sixes_inj h.value_lt h'.value_lt (by rw [h.bits_eq, h'.bits_eq])
  have hgroups := h.groups
  have hgroups' := h'.groups
  have hpads := h.pads_lt
  have hpads' := h'.pads_lt
  obtain rfl : pads = pads' := by omega
  exact List.map_injective_iff.2 (fun _ _ => Option.some.inj) (by rw [h.text_eq, h'.text_eq])

/-- A whole group in front of base64 text. -/
theorem IsBase64.group {octets group : Bytes} {text : List Char} (h : IsBase64 octets text) {v w x y : Nat}
    (hv : v < 64) (hw : w < 64) (hx : x < 64) (hy : y < 64) (hbits : sixes [v, w, x, y] = bitsOf group) :
    IsBase64 (group ++ octets) (symbol v :: symbol w :: symbol x :: symbol y :: text) := by
  obtain ⟨vs, zeros, pads, h⟩ := h
  refine ⟨[v, w, x, y] ++ vs, zeros, pads, ?_, ?_, h.zeros_lt, h.pads_lt, ?_⟩
  · simp [alphabet_getElem?, hv, hw, hx, hy, h.text_eq]
  · have hsixes : sixes ([v, w, x, y] ++ vs) = sixes [v, w, x, y] ++ sixes vs := List.flatMap_append
    have hoctets : bitsOf (group ++ octets) = bitsOf group ++ bitsOf octets := List.flatMap_append
    rw [hsixes, hoctets, hbits, h.bits_eq, List.append_assoc]
  · have hgroups := h.groups
    simp only [List.length_append, List.length_cons, List.length_nil]
    omega

section Sixes

variable (a b c : UInt8)

theorem sixes_one : sixes [a.toNat / 4, a.toNat % 4 * 16] = bitsOf [a] ++ List.replicate 4 false := by
  have ha := a.toNat_lt
  simp only [sixes, bitsOf, List.flatMap_cons, List.flatMap_nil, List.append_nil]
  rw [← bits_zero, bits_append (by omega), bits_append (by decide)]
  exact congrArg (bits 12) (by omega)

theorem sixes_two : let n := a.toNat * 256 + b.toNat
    sixes [n / 1024, n / 16 % 64, n % 16 * 4] = bitsOf [a, b] ++ List.replicate 2 false := by
  intro n
  have ha := a.toNat_lt
  have hb := b.toNat_lt
  simp only [sixes, bitsOf, List.flatMap_cons, List.flatMap_nil, List.append_nil, ← List.append_assoc]
  rw [← bits_zero, bits_append (by omega), bits_append (by omega), bits_append hb, bits_append (by decide)]
  exact congrArg (bits 18) (by omega)

theorem sixes_three : let n := a.toNat * 65536 + b.toNat * 256 + c.toNat
    sixes [n / 262144, n / 4096 % 64, n / 64 % 64, n % 64] = bitsOf [a, b, c] := by
  intro n
  have ha := a.toNat_lt
  have hb := b.toNat_lt
  have hc := c.toNat_lt
  simp only [sixes, bitsOf, List.flatMap_cons, List.flatMap_nil, List.append_nil, ← List.append_assoc]
  rw [bits_append (by omega), bits_append (by omega), bits_append (by omega), bits_append hb, bits_append hc]
  exact congrArg (bits 24) (by omega)

end Sixes

theorem isBase64_encode (octets : Bytes) : IsBase64 octets (encode octets) := by
  fun_induction encode octets with
  | case1 a b c rest n ih =>
    have ha := a.toNat_lt
    have hb := b.toNat_lt
    have hc := c.toNat_lt
    exact ih.group (by omega) (by omega) (by omega) (by omega) (sixes_three a b c)
  | case2 a b n =>
    have ha := a.toNat_lt
    have hb := b.toNat_lt
    have hv : n / 1024 < 64 := by omega
    have hw : n / 16 % 64 < 64 := by omega
    have hx : n % 16 * 4 < 64 := by omega
    refine ⟨_, 2, 1, ?_, sixes_two a b, by decide, by decide, by simp⟩
    simp [alphabet_getElem?, hv, hw, hx, n]
  | case3 a =>
    have ha := a.toNat_lt
    have hv : a.toNat / 4 < 64 := by omega
    have hw : a.toNat % 4 * 16 < 64 := by omega
    refine ⟨_, 4, 2, ?_, sixes_one a, by decide, by decide, by simp⟩
    simp [alphabet_getElem?, hv, hw]
  | case4 => exact ⟨[], 0, 0, rfl, rfl, by decide, by decide, rfl⟩

/-- What is written is base64 text of the octets, and they have no other one. -/
theorem isBase64_iff {octets : Bytes} {text : List Char} : IsBase64 octets text ↔ text = encode octets := by
  constructor
  · exact fun h => h.unique (isBase64_encode octets)
  · rintro rfl
    exact isBase64_encode octets

end Stencil.Bytes.Base64
