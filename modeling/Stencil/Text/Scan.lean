/-!
# Scanning text for a mark

Text is looked at as its list of characters. `breakOn` finds the first occurrence of a mark and
hands back both sides of it; a mark that does not occur is told apart from one that stands at an
end. The trimming functions take the class of characters that they drop.

`breakOn_eq` and `length_breakOn` say that nothing is lost: the two sides with the mark between
them are the text, so the rest is shorter whenever the mark is not empty.
-/

namespace Stencil.Text

/-- What precedes and what follows the first occurrence of `mark`, if there is one. -/
def breakOn (mark : List Char) : List Char → Option (List Char × List Char)
  | [] => (mark.isPrefixOf? []).map ([], ·)
  | c :: cs =>
    match mark.isPrefixOf? (c :: cs) with
    | some rest => some ([], rest)
    | none => (breakOn mark cs).map fun (before, rest) => (c :: before, rest)

/-- Whether `mark` occurs in the text. -/
def contains (mark text : List Char) : Bool := (breakOn mark text).isSome

/-- The text without the characters of the class at its end. -/
def trimEnd (p : Char → Bool) (cs : List Char) : List Char := (cs.reverse.dropWhile p).reverse

/-- The text without the characters of the class at either end. -/
def trim (p : Char → Bool) (cs : List Char) : List Char := trimEnd p (cs.dropWhile p)

/-- The characters of the class at the end of the text. -/
def takeEnd (p : Char → Bool) (cs : List Char) : List Char := (cs.reverse.takeWhile p).reverse

/-- Every `old` character becomes `new`. -/
def replaceChar (old new : Char) (s : String) : String :=
  String.ofList (s.toList.map fun c => if c = old then new else c)

/-! ## The two sides make up the text -/

theorem eq_append_of_isPrefixOf? {mark cs rest : List Char}
    (h : mark.isPrefixOf? cs = some rest) : cs = mark ++ rest := by
  induction mark generalizing cs with
  | nil =>
    have whole : [].isPrefixOf? cs = some cs := by cases cs <;> rfl
    exact Option.some.inj (whole.symm.trans h)
  | cons m ms ih =>
    cases cs with
    | nil => exact nomatch h
    | cons c cs =>
      have step : (m :: ms).isPrefixOf? (c :: cs) = if m == c then ms.isPrefixOf? cs else none := rfl
      rw [step] at h
      split at h
      · next hc => rw [eq_of_beq hc, ih h, List.cons_append]
      · cases h

theorem breakOn_eq {mark cs before rest : List Char} (h : breakOn mark cs = some (before, rest)) :
    cs = before ++ mark ++ rest := by
  induction cs generalizing before with
  | nil =>
    obtain ⟨r, hr, he⟩ := Option.map_eq_some_iff.1 (by simpa only [breakOn] using h)
    cases he
    simpa using eq_append_of_isPrefixOf? hr
  | cons c cs ih =>
    unfold breakOn at h
    split at h
    · next hr => cases h; simpa using eq_append_of_isPrefixOf? hr
    · obtain ⟨⟨b, r⟩, hb, he⟩ := Option.map_eq_some_iff.1 h
      cases he
      simp [ih hb]

theorem length_breakOn {mark cs before rest : List Char}
    (h : breakOn mark cs = some (before, rest)) :
    rest.length + mark.length ≤ cs.length := by
  have := congrArg List.length (breakOn_eq h)
  simp only [List.length_append] at this
  omega

end Stencil.Text
