/-!
# Octets

File contents are lists of octets. Text becomes octets by its UTF-8 form; octets become text if
they are the UTF-8 form of one. `toText?_eq_some_iff` says that reading is exactly the inverse of
writing: no octets stand for two texts, and no text is read from octets that are not its own.
-/

namespace Stencil

/-- The contents of a file. -/
abbrev Bytes := List UInt8

namespace Bytes

/-- The UTF-8 form of a text. -/
def ofText (s : String) : Bytes := s.toUTF8.data.toList

/-- The text that the octets are the UTF-8 form of, if there is one. -/
def toText? (bytes : Bytes) : Option String := String.fromUTF8? ⟨bytes.toArray⟩

/-- The two hexadecimal digits of an octet. -/
def hexOctet (b : UInt8) : List Char :=
  [Nat.digitChar (b.toNat / 16), Nat.digitChar (b.toNat % 16)]

/-- The octets in lower-case hexadecimal digits. -/
def toHex (bytes : Bytes) : String := String.ofList (bytes.flatMap hexOctet)

/-! ## The octets of a text -/

theorem ofText_append (s t : String) : ofText (s ++ t) = ofText s ++ ofText t := by
  simp [ofText, String.toUTF8]

theorem ofText_ofList (cs : List Char) :
    ofText (String.ofList cs) = cs.flatMap String.utf8EncodeChar := by
  simp [ofText, String.toUTF8, List.utf8Encode]

/-! ## Reading inverts writing -/

theorem toText?_ofText (s : String) : toText? (ofText s) = some s := by
  have h : (⟨s.toUTF8.data.toList.toArray⟩ : ByteArray) = s.toUTF8 := by simp
  simp only [toText?, ofText, h]
  simp [String.fromUTF8?, String.fromUTF8, String.isValidUTF8]

theorem ofText_of_toText? {bytes : Bytes} {s : String} (h : toText? bytes = some s) :
    ofText s = bytes := by
  simp only [toText?, String.fromUTF8?] at h
  split at h
  · cases h; simp [ofText, String.fromUTF8]
  · cases h

theorem toText?_eq_some_iff {bytes : Bytes} {s : String} :
    toText? bytes = some s ↔ ofText s = bytes :=
  ⟨ofText_of_toText?, fun h => h ▸ toText?_ofText s⟩

end Bytes

end Stencil
