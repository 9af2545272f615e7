import Stencil.Bytes.Basic
/-!
# SHA-256

The digest of FIPS 180-4. The message is padded to blocks of sixteen words; each block stirs eight
words of state in sixty-four rounds. The schedule of a block is a sliding window of sixteen words: a
round uses the first and appends the word that follows the last.
-/

namespace Stencil.Bytes.Sha256

/-- The words of state. -/
structure Digest where
  a : UInt32
  b : UInt32
  c : UInt32
  d : UInt32
  e : UInt32
  f : UInt32
  g : UInt32
  h : UInt32
deriving Repr, DecidableEq

/-- The bits turned right by `n` places. -/
def rotate (n : UInt32) (x : UInt32) : UInt32 := (x >>> n) ||| (x <<< (32 - n))

/-- The constants of the rounds. -/
def roundConstants : List UInt32 :=
  [ 0x428a2f98, 0x71374491, 0xb5c0fbcf, 0xe9b5dba5, 0x3956c25b, 0x59f111f1, 0x923f82a4, 0xab1c5ed5,
    0xd807aa98, 0x12835b01, 0x243185be, 0x550c7dc3, 0x72be5d74, 0x80deb1fe, 0x9bdc06a7, 0xc19bf174,
    0xe49b69c1, 0xefbe4786, 0x0fc19dc6, 0x240ca1cc, 0x2de92c6f, 0x4a7484aa, 0x5cb0a9dc, 0x76f988da,
    0x983e5152, 0xa831c66d, 0xb00327c8, 0xbf597fc7, 0xc6e00bf3, 0xd5a79147, 0x06ca6351, 0x14292967,
    0x27b70a85, 0x2e1b2138, 0x4d2c6dfc, 0x53380d13, 0x650a7354, 0x766a0abb, 0x81c2c92e, 0x92722c85,
    0xa2bfe8a1, 0xa81a664b, 0xc24b8b70, 0xc76c51a3, 0xd192e819, 0xd6990624, 0xf40e3585, 0x106aa070,
    0x19a4c116, 0x1e376c08, 0x2748774c, 0x34b0bcb5, 0x391c0cb3, 0x4ed8aa4a, 0x5b9cca4f, 0x682e6ff3,
    0x748f82ee, 0x78a5636f, 0x84c87814, 0x8cc70208, 0x90befffa, 0xa4506ceb, 0xbef9a3f7, 0xc67178f2 ]

/-- The state before the first block. -/
def initial : Digest :=
  ⟨0x6a09e667, 0xbb67ae85, 0x3c6ef372, 0xa54ff53a, 0x510e527f, 0x9b05688c, 0x1f83d9ab, 0x5be0cd19⟩

/-- One round with the constant `k` and the scheduled word `w`. -/
def round (k w : UInt32) (s : Digest) : Digest :=
  let choice := (s.e &&& s.f) ^^^ (~~~s.e &&& s.g)
  let majority := (s.a &&& s.b) ^^^ (s.a &&& s.c) ^^^ (s.b &&& s.c)
  let sum0 := rotate 2 s.a ^^^ rotate 13 s.a ^^^ rotate 22 s.a
  let sum1 := rotate 6 s.e ^^^ rotate 11 s.e ^^^ rotate 25 s.e
  let t := s.h + sum1 + choice + k + w
  ⟨t + sum0 + majority, s.a, s.b, s.c, s.d + t, s.e, s.f, s.g⟩

/-- The window moved on by one word. -/
def slide (window : List UInt32) : List UInt32 :=
  let w (i : Nat) := window.getD i 0
  let small0 := rotate 7 (w 1) ^^^ rotate 18 (w 1) ^^^ (w 1 >>> 3)
  let small1 := rotate 17 (w 14) ^^^ rotate 19 (w 14) ^^^ (w 14 >>> 10)
  window.drop 1 ++ [w 0 + small0 + w 9 + small1]

/-- The rounds with the given constants. -/
def rounds : List UInt32 → List UInt32 → Digest → Digest
  | [], _, s => s
  | k :: ks, window, s => rounds ks (slide window) (round k (window.getD 0 0) s)

/-- The state after a block of sixteen words. -/
def absorb (s : Digest) (block : List UInt32) : Digest :=
  let t := rounds roundConstants block s
  ⟨s.a + t.a, s.b + t.b, s.c + t.c, s.d + t.d, s.e + t.e, s.f + t.f, s.g + t.g, s.h + t.h⟩

/-- Octets as words, the most significant octet first. -/
def wordsOf : Bytes → List UInt32
  | a :: b :: c :: d :: rest =>
    .ofNat (a.toNat * 16777216 + b.toNat * 65536 + c.toNat * 256 + d.toNat) :: wordsOf rest
  | _ => []

/-- The state after all words, a block at a time. -/
def absorbAll (s : Digest) : List UInt32 → Digest
  | [] => s
  | w :: ws => absorbAll (absorb s ((w :: ws).take 16)) ((w :: ws).drop 16)
termination_by ws => ws.length
decreasing_by simp only [List.length_drop, List.length_cons]; omega

/-- The octets of a number, the most significant first. -/
def bigEndian : Nat → Nat → Bytes
  | 0, _ => []
  | k + 1, n => bigEndian k (n / 256) ++ [.ofNat (n % 256)]

/-- The message with a one bit, zeros and its length in bits. -/
def padded (message : Bytes) : Bytes :=
  message ++ 0x80 :: List.replicate ((119 - message.length % 64) % 64) 0 ++
    bigEndian 8 (message.length * 8)

/-- The octets of the state. -/
def Digest.toBytes (s : Digest) : Bytes :=
  [s.a, s.b, s.c, s.d, s.e, s.f, s.g, s.h].flatMap fun w => bigEndian 4 w.toNat

/-- The digest of a message. -/
def digest (message : Bytes) : Bytes := (absorbAll initial (wordsOf (padded message))).toBytes

end Sha256

/-- The digest of a text in hexadecimal digits. -/
def sha256Hex (s : String) : String := toHex (Sha256.digest (ofText s))

end Stencil.Bytes
