import Stencil.Bytes.Basic
/-!
# Base64

Octets in threes, each three as four symbols of six bits. The last group is filled up with `=`, and
there is exactly one way to write given octets: reading refuses missing or superfluous padding,
symbols outside the alphabet, and bits that belong to no octet.
-/

namespace Stencil.Bytes.Base64

/-- The symbol of a value below 64. -/
def symbol (n : Nat) : Char :=
  if n < 26 then Char.ofNat (65 + n)
  else if n < 52 then Char.ofNat (71 + n)
  else if n < 62 then Char.ofNat (n - 4)
  else if n = 62 then '+' else '/'

/-- The value of a symbol. -/
def value? (b : UInt8) : Option Nat :=
  let n := b.toNat
  if 65 ≤ n ∧ n ≤ 90 then some (n - 65)
  else if 97 ≤ n ∧ n ≤ 122 then some (n - 71)
  else if 48 ≤ n ∧ n ≤ 57 then some (n + 4)
  else if n = 43 then some 62
  else if n = 47 then some 63
  else none

/-- The octet of `=`. -/
def pad : UInt8 := 61

/-- Octets in base64. -/
def encode : Bytes → List Char
  | a :: b :: c :: rest =>
    let n := a.toNat * 65536 + b.toNat * 256 + c.toNat
    symbol (n / 262144) :: symbol (n / 4096 % 64) :: symbol (n / 64 % 64) :: symbol (n % 64) ::
      encode rest
  | [a, b] =>
    let n := a.toNat * 256 + b.toNat
    [symbol (n / 1024), symbol (n / 16 % 64), symbol (n % 16 * 4), '=']
  | [a] => [symbol (a.toNat / 4), symbol (a.toNat % 4 * 16), '=', '=']
  | [] => []

/-- What is wrong with octets that are not base64. -/
inductive Fault where
  /-- An octet that is no symbol, or padding in a wrong place. -/
  | symbol (octet : UInt8) (index : Nat)
  /-- A last symbol with bits that belong to no octet. -/
  | lastSymbol (octet : UInt8) (index : Nat)
  /-- One symbol too many. -/
  | length (symbols : Nat)
  /-- Missing padding. -/
  | padding
deriving Repr, DecidableEq

/-- The fault in words. -/
def Fault.message : Fault → String
  | .symbol octet index => s!"Invalid symbol {octet.toNat}, offset {index}."
  | .lastSymbol octet index => s!"Invalid last symbol {octet.toNat}, offset {index}."
  | .length symbols => s!"Invalid input length: {symbols}"
  | .padding => "Invalid padding"

/-- The values of symbols, the first of which stands at `index`. -/
def values (index : Nat) : Bytes → Except Fault (List Nat)
  | [] => .ok []
  | b :: bytes =>
    match value? b with
    | none => .error (.symbol b index)
    | some v => (values (index + 1) bytes).map (v :: ·)

/-- The three octets of four values. -/
def octets (a b c d : Nat) : Bytes :=
  [.ofNat (a * 4 + b / 16), .ofNat (b % 16 * 16 + c / 4), .ofNat (c % 4 * 64 + d)]

/-- The octets of the last group, at most four symbols and padding. -/
def decodeLast (index : Nat) (group : Bytes) : Except Fault Bytes :=
  let symbols := group.takeWhile (· != pad)
  let padding := group.drop symbols.length
  match values index symbols with
  | .error fault => .error fault
  | .ok vs =>
    if !padding.isEmpty && (symbols.length < 2 || padding.any (· != pad)) then
      .error (.symbol pad (index + symbols.length))
    else match vs, padding.length with
      | [], _ => .ok []
      | [_], _ => .error (.length (index + 1))
      | [a, b], 2 =>
        if b % 16 = 0 then .ok [.ofNat (a * 4 + b / 16)]
        else .error (.lastSymbol (symbols.getD 1 0) (index + 1))
      | [a, b, c], 1 =>
        if c % 4 = 0 then .ok [.ofNat (a * 4 + b / 16), .ofNat (b % 16 * 16 + c / 4)]
        else .error (.lastSymbol (symbols.getD 2 0) (index + 2))
      | a :: b :: c :: d :: _, _ => .ok (octets a b c d)
      | _, _ => .error .padding

/-- The octets of groups of four, the first of which stands at `index`. -/
def decodeGroups (index : Nat) : Bytes → Except Fault Bytes
  | a :: b :: c :: d :: e :: rest =>
    match values index [a, b, c, d] with
    | .ok [v, w, x, y] => (decodeGroups (index + 4) (e :: rest)).map (octets v w x y ++ ·)
    | .ok _ => .error .padding
    | .error fault => .error fault
  | group => decodeLast index group

/-- Whether one octet is left over after the groups of four and is neither a symbol nor padding,
like a line feed at the end. -/
def strayEnd? (bytes : Bytes) : Option Fault :=
  match bytes.getLast? with
  | some b =>
    if bytes.length % 4 = 1 ∧ b ≠ pad ∧ value? b = none then some (.symbol b (bytes.length - 1))
    else none
  | none => none

/-- The octets that base64 text stands for. -/
def decode (bytes : Bytes) : Except Fault Bytes :=
  match strayEnd? bytes with
  | some fault => .error fault
  | none => decodeGroups 0 bytes

end Stencil.Bytes.Base64
