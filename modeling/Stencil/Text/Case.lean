import Stencil.Text.Property.Alphanumeric
import Stencil.Text.Property.CaseMap
import Stencil.Text.Property.Cased
/-!
# Letter case

Characters and texts in lower and in upper case, over all of Unicode. ASCII is decided by
arithmetic before any table is read, so facts about ASCII text never meet the tables.

A character may become several (`ß` is upper-cased to `SS`), so the mappings of a character give a
list. In a text one mapping depends on the neighbours: a capital sigma at the end of a word is
lowered to its final form.
-/

namespace Stencil.Text

open Property

/-- Whether `n` lies in one of the closed intervals. -/
def inRanges (rows : List (List (Nat × Nat))) (n : Nat) : Bool :=
  rows.any fun row => row.any fun (lo, hi) => lo ≤ n && n ≤ hi

/-- Letters and numbers of every script. -/
def isAlphanumeric (c : Char) : Bool :=
  if c.toNat < 128 then c.isAlphanum else inRanges alphanumericRanges c.toNat

/-- Characters that have an upper, lower or title case. -/
def isCased (c : Char) : Bool :=
  if c.toNat < 128 then c.isAlpha else inRanges casedRanges c.toNat

/-- Characters that stand inside a word without deciding where it ends; of ASCII these are the
apostrophe, the full stop, the colon, the circumflex and the grave accent. -/
def isCaseIgnorable (c : Char) : Bool :=
  if c.toNat < 128 then [0x27, 0x2E, 0x3A, 0x5E, 0x60].contains c.toNat
  else inRanges caseIgnorableRanges c.toNat

/-- The first run that `n` is on says what it maps to; elsewhere `n` stays. -/
def mapRuns (rows : List (List CaseRun)) (n : Nat) : Nat :=
  (rows.findSome? fun row => row.findSome? (·.image? n)).getD n

/-- A character in lower case, whatever stands around it. -/
def lowerChar (c : Char) : List Char :=
  if c.toNat < 128 then [c.toLower]
  else match lowerExpansions.lookup c.toNat with
    | some ns => ns.map Char.ofNat
    | none => [Char.ofNat (mapRuns lowerRuns c.toNat)]

/-- A character in upper case. -/
def upperChar (c : Char) : List Char :=
  if c.toNat < 128 then [c.toUpper]
  else match upperExpansions.findSome? (·.lookup c.toNat) with
    | some ns => ns.map Char.ofNat
    | none => [Char.ofNat (mapRuns upperRuns c.toNat)]

/-- Whether the first character that counts is a cased one. -/
def startsCased (cs : List Char) : Bool :=
  match cs.dropWhile isCaseIgnorable with
  | [] => false
  | c :: _ => isCased c

/-- The capital sigma. -/
def capitalSigma : Char := Char.ofNat 0x3A3

/-- The small sigma between `before`, nearest character first, and `after`: the final form at the
end of a word. -/
def smallSigma (before after : List Char) : Char :=
  if startsCased before && !startsCased after then Char.ofNat 0x3C2 else Char.ofNat 0x3C3

/-- The text in lower case, where `before` is what precedes it, nearest character first. -/
def lowerAfter (before : List Char) : List Char → List Char
  | [] => []
  | c :: cs =>
    (if c = capitalSigma then [smallSigma before cs] else lowerChar c) ++ lowerAfter (c :: before) cs

/-- The text in lower case. -/
def lowerChars (cs : List Char) : List Char := lowerAfter [] cs

/-- The text in upper case. -/
def upperChars (cs : List Char) : List Char := cs.flatMap upperChar

/-- The string in lower case. -/
def lower (s : String) : String := String.ofList (lowerChars s.toList)

/-- The string in upper case. -/
def upper (s : String) : String := String.ofList (upperChars s.toList)

/-- The characters of the property White_Space. -/
def isBlank (c : Char) : Bool :=
  let n := c.toNat
  (9 ≤ n && n ≤ 13) || n == 0x20 || n == 0x85 || n == 0xA0 || n == 0x1680 ||
    (0x2000 ≤ n && n ≤ 0x200A) || n == 0x2028 || n == 0x2029 || n == 0x202F || n == 0x205F ||
    n == 0x3000

/-! ## ASCII -/

theorem lowerChar_of_ascii {c : Char} (h : c.toNat < 128) : lowerChar c = [c.toLower] := if_pos h

theorem upperChar_of_ascii {c : Char} (h : c.toNat < 128) : upperChar c = [c.toUpper] := if_pos h

theorem ne_capitalSigma_of_ascii {c : Char} (h : c.toNat < 128) : c ≠ capitalSigma := by
  rintro rfl
  exact absurd h (by decide)

theorem lowerAfter_of_ascii (cs before : List Char) (h : ∀ c ∈ cs, c.toNat < 128) :
    lowerAfter before cs = cs.map Char.toLower := by
  induction cs generalizing before with
  | nil => rfl
  | cons c cs ih =>
    have hc := h c (by simp)
    simp [lowerAfter, ne_capitalSigma_of_ascii hc, lowerChar_of_ascii hc,
      ih (c :: before) fun d hd => h d (by simp [hd])]

/-- An ASCII text is lowered character by character. -/
theorem lowerChars_of_ascii {cs : List Char} (h : ∀ c ∈ cs, c.toNat < 128) :
    lowerChars cs = cs.map Char.toLower := lowerAfter_of_ascii cs [] h

end Stencil.Text
