import Stencil.Json.Typing
/-!
# Reading what was written

A value is written without blanks, and read as a document without mistakes that says the same
(`readValue_compactChars`), whatever text follows it. A string is read piece by piece: every character was written as
one piece, a control character as a code unit and the others as themselves or behind a backslash.

Numbers are left out. What follows a number may go on with it, and the text of a floating-point number would have to be
read back to the same number.
-/

namespace Stencil.Json

/-! ## Strings -/

/-- A character of a string is read as one piece, which stands for that character. -/
theorem exists_pieces_escapeChar (c : Char) (rest : List Char) :
    ∃ p, pieces (escapeChar c ++ rest) = (p :: (pieces rest).1, (pieces rest).2) ∧
      ∀ ended ps, joinUnits ended (p :: ps) = (joinUnits ended ps).map (c :: ·) := by
  unfold escapeChar
  split
  case h_8 hquote hbackslash hbackspace hfeed hline hreturn htab =>
    split
    · next hcontrol =>
      have hunit : ∀ n < 32, unit? '0' '0' (Nat.digitChar (n / 16)) (Nat.digitChar (n % 16)) = some n ∧
          isTrail n = false ∧ isLead n = false := by decide
      obtain ⟨hunit, htrail, hlead⟩ := hunit c.toNat hcontrol
      refine ⟨.unit c.toNat, ?_, fun ended ps => ?_⟩
      · simp [pieces, hunit]
      · rw [joinUnits.eq_def]
        simp [htrail, hlead]
    · next hplain =>
      refine ⟨.char c, ?_, fun ended ps => rfl⟩
      rw [List.singleton_append, pieces.eq_def]
      split <;> simp_all
  all_goals exact ⟨.char _, by simp [pieces, escaped?], fun _ _ => rfl⟩

theorem pieces_flatMap_escapeChar (cs rest : List Char) :
    ∃ ps, pieces (cs.flatMap escapeChar ++ '"' :: rest) = (ps, .ok rest) ∧
      ∀ ended, joinUnits ended ps = some cs := by
  induction cs with
  | nil => exact ⟨[], rfl, fun _ => rfl⟩
  | cons c cs ih =>
    obtain ⟨ps, hps, hjoin⟩ := ih
    obtain ⟨p, hp, hc⟩ := exists_pieces_escapeChar c (cs.flatMap escapeChar ++ '"' :: rest)
    refine ⟨p :: ps, ?_, fun ended => by rw [hc, hjoin, Option.map_some]⟩
    rw [List.flatMap_cons, List.append_assoc, hp, hps]

/-- A string is read back. -/
theorem readString_escaped (s : String) (rest : List Char) :
    readString (s.toList.flatMap escapeChar ++ '"' :: rest) = .ok (some s, rest) := by
  obtain ⟨ps, hps, hjoin⟩ := pieces_flatMap_escapeChar s.toList rest
  rw [readString, hps]
  simp [hjoin]

/-! ## Values -/

mutual

/-- There is no number in the value. -/
def Numberless : Json → Prop
  | .number _ => False
  | .array items => NumberlessItems items
  | .object members => NumberlessMembers members
  | _ => True

/-- There is no number in any item. -/
def NumberlessItems : List Json → Prop
  | [] => True
  | x :: xs => Numberless x ∧ NumberlessItems xs

/-- There is no number in any member. -/
def NumberlessMembers : List (String × Json) → Prop
  | [] => True
  | (_, x) :: xs => Numberless x ∧ NumberlessMembers xs

end

theorem numberlessItems_iff {items : List Json} : NumberlessItems items ↔ ∀ x ∈ items, Numberless x := by
  induction items with
  | nil => simp [NumberlessItems]
  | cons x xs ih => simp [NumberlessItems, ih]

theorem skipGap_cons {c : Char} (h : isGap c = false) (cs : List Char) : skipGap (c :: cs) = c :: cs := by
  rw [skipGap, List.dropWhile_cons_of_neg (by simp [h])]

/-- A value begins with a character that no array or object ends with. -/
theorem exists_compactChars_cons {value : Json} (h : Numberless value) :
    ∃ c cs, compactChars value = c :: cs ∧ isGap c = false ∧ c ≠ ']' := by
  cases value with
  | null => exact ⟨'n', _, rfl, by decide, by decide⟩
  | bool b =>
    cases b with
    | true => exact ⟨'t', _, rfl, by decide, by decide⟩
    | false => exact ⟨'f', _, rfl, by decide, by decide⟩
  | number n => exact h.elim
  | text s => exact ⟨'"', _, rfl, by decide, by decide⟩
  | array items => exact ⟨'[', _, rfl, by decide, by decide⟩
  | object members => exact ⟨'\x7b', _, rfl, by decide, by decide⟩

/-! ### One step of a reader -/

section step

variable {fuel : Nat} {cs rest : List Char} {d : Document}

theorem quote_append (s : String) (cs : List Char) :
    quote s ++ cs = '"' :: (s.toList.flatMap escapeChar ++ '"' :: cs) := by
  simp [quote]

theorem readValue_quote (s : String) : readValue (fuel + 1) (quote s ++ rest) = (.text (some s), rest) := by
  rw [quote_append, readValue, skipGap_cons (by decide)]
  simp only [readString_escaped]

theorem readValue_array {items : List Document} (hcs : ∃ c cs', cs = c :: cs' ∧ isGap c = false ∧ c ≠ ']')
    (h : readItems fuel (cs ++ ']' :: rest) = (items, none, rest)) :
    readValue (fuel + 1) ('[' :: (cs ++ ']' :: rest)) = (.array items none, rest) := by
  obtain ⟨c, cs', rfl, hgap, hne⟩ := hcs
  rw [List.cons_append] at h ⊢
  rw [readValue, skipGap_cons (by decide)]
  simp only [skipGap_cons hgap, h]

theorem readValue_object {members : List (Option String × Document)} (hcs : ∃ cs', cs = '"' :: cs')
    (h : readMembers fuel (cs ++ '\x7d' :: rest) = (members, none, rest)) :
    readValue (fuel + 1) ('\x7b' :: (cs ++ '\x7d' :: rest)) = (.object members none, rest) := by
  obtain ⟨cs', rfl⟩ := hcs
  rw [List.cons_append] at h ⊢
  have hgap : isGap '"' = false := by decide
  rw [readValue, skipGap_cons (by decide)]
  simp only [skipGap_cons hgap, h]
  rfl

theorem readItems_last (h : readValue fuel (cs ++ ']' :: rest) = (d, ']' :: rest)) :
    readItems (fuel + 1) (cs ++ ']' :: rest) = ([d], none, rest) := by
  have hgap : isGap ']' = false := by decide
  rw [readItems, h]
  simp only [skipGap_cons hgap]

theorem readItems_cons {more : List Char} {items : List Document}
    (h : readValue fuel (cs ++ ',' :: more) = (d, ',' :: more)) (hmore : readItems fuel more = (items, none, rest)) :
    readItems (fuel + 1) (cs ++ ',' :: more) = (d :: items, none, rest) := by
  have hgap : isGap ',' = false := by decide
  rw [readItems, h]
  simp only [skipGap_cons hgap, hmore]

theorem readMembers_last (name : String) (h : readValue fuel (cs ++ '\x7d' :: rest) = (d, '\x7d' :: rest)) :
    readMembers (fuel + 1) (quote name ++ ':' :: (cs ++ '\x7d' :: rest)) = ([(some name, d)], none, rest) := by
  have hcolon : isGap ':' = false := by decide
  have hbrace : isGap '\x7d' = false := by decide
  rw [quote_append, readMembers, skipGap_cons (by decide)]
  simp only [readString_escaped, skipGap_cons hcolon, h, skipGap_cons hbrace]

theorem readMembers_cons (name : String) {more : List Char} {members : List (Option String × Document)}
    (h : readValue fuel (cs ++ ',' :: more) = (d, ',' :: more))
    (hmore : readMembers fuel more = (members, none, rest)) :
    readMembers (fuel + 1) (quote name ++ ':' :: (cs ++ ',' :: more)) = ((some name, d) :: members, none, rest) := by
  have hcolon : isGap ':' = false := by decide
  have hcomma : isGap ',' = false := by decide
  rw [quote_append, readMembers, skipGap_cons (by decide)]
  simp only [readString_escaped, skipGap_cons hcolon, h, skipGap_cons hcomma, hmore]

end step

/-! ### All of a value -/

theorem exists_compactMembers_cons {members : List (String × Json)} (h : members ≠ []) :
    ∃ cs, compactMembers members = '"' :: cs := by
  match members, h with
  | [(name, x)], _ => exact ⟨_, rfl⟩
  | (name, x) :: y :: xs, _ => exact ⟨_, rfl⟩

theorem exists_compactItems_cons {items : List Json} (hne : items ≠ []) (h : NumberlessItems items) :
    ∃ c cs, compactItems items = c :: cs ∧ isGap c = false ∧ c ≠ ']' := by
  match items, hne, h with
  | [x], _, h => exact exists_compactChars_cons h.1
  | x :: y :: xs, _, h =>
    obtain ⟨c, cs, hx, hc⟩ := exists_compactChars_cons h.1
    exact ⟨c, cs ++ ',' :: compactItems (y :: xs), by simp [compactItems, hx], hc⟩

mutual

/-- A value without numbers is read back, whatever follows it. -/
theorem readValue_compactChars (value : Json) (h : Numberless value) (fuel : Nat)
    (hfuel : 2 * (compactChars value).length ≤ fuel) (rest : List Char) :
    readValue fuel (compactChars value ++ rest) = (value.toDocument, rest) := by
  match value, fuel with
  | _, 0 =>
    obtain ⟨c, cs, hcs, -⟩ := exists_compactChars_cons h
    rw [hcs] at hfuel
    simp at hfuel
  | .null, fuel + 1 => rfl
  | .bool true, fuel + 1 => rfl
  | .bool false, fuel + 1 => rfl
  | .text s, fuel + 1 => exact readValue_quote s
  | .number n, _ => exact h.elim
  | .array [], fuel + 1 => rfl
  | .array (x :: xs), fuel + 1 =>
    have hitems := readItems_compactItems (x :: xs) (List.cons_ne_nil x xs) h fuel
      (by simp only [compactChars, List.cons_append, List.length_cons, List.length_append] at hfuel; omega) rest
    have hread := readValue_array (exists_compactItems_cons (List.cons_ne_nil x xs) h) hitems
    simpa [compactChars, toDocument] using hread
  | .object [], fuel + 1 => rfl
  | .object (m :: ms), fuel + 1 =>
    have hmembers := readMembers_compactMembers (m :: ms) (List.cons_ne_nil m ms) h fuel
      (by simp only [compactChars, List.cons_append, List.length_cons, List.length_append] at hfuel; omega) rest
    have hread := readValue_object (exists_compactMembers_cons (List.cons_ne_nil m ms)) hmembers
    simpa [compactChars, toDocument] using hread

/-- Items are read back up to the bracket behind them. -/
theorem readItems_compactItems (items : List Json) (hne : items ≠ []) (h : NumberlessItems items) (fuel : Nat)
    (hfuel : 2 * (compactItems items).length < fuel) (rest : List Char) :
    readItems fuel (compactItems items ++ ']' :: rest) = (itemsToDocument items, none, rest) := by
  match items, fuel with
  | _, 0 => omega
  | [], _ => exact absurd rfl hne
  | [x], fuel + 1 =>
    have hx := readValue_compactChars x h.1 fuel (by simp only [compactItems] at hfuel; omega) (']' :: rest)
    exact readItems_last hx
  | x :: y :: xs, fuel + 1 =>
    simp only [compactItems, List.length_append, List.length_cons] at hfuel
    have hx := readValue_compactChars x h.1 fuel (by omega) (',' :: (compactItems (y :: xs) ++ ']' :: rest))
    have hxs := readItems_compactItems (y :: xs) (List.cons_ne_nil y xs) h.2 fuel (by omega) rest
    simpa [compactItems, itemsToDocument] using readItems_cons hx hxs

/-- Members are read back up to the brace behind them. -/
theorem readMembers_compactMembers (members : List (String × Json)) (hne : members ≠ [])
    (h : NumberlessMembers members) (fuel : Nat) (hfuel : 2 * (compactMembers members).length < fuel)
    (rest : List Char) :
    readMembers fuel (compactMembers members ++ '\x7d' :: rest) = (membersToDocument members, none, rest) := by
  match members, fuel with
  | _, 0 => omega
  | [], _ => exact absurd rfl hne
  | [(name, x)], fuel + 1 =>
    simp only [compactMembers, List.length_append, List.length_cons] at hfuel
    have hx := readValue_compactChars x h.1 fuel (by omega) ('\x7d' :: rest)
    simpa [compactMembers, membersToDocument] using readMembers_last name hx
  | (name, x) :: y :: xs, fuel + 1 =>
    simp only [compactMembers, List.length_append, List.length_cons] at hfuel
    have hx := readValue_compactChars x h.1 fuel (by omega) (',' :: (compactMembers (y :: xs) ++ '\x7d' :: rest))
    have hxs := readMembers_compactMembers (y :: xs) (List.cons_ne_nil y xs) h.2 fuel (by omega) rest
    simpa [compactMembers, membersToDocument] using readMembers_cons name hx hxs

end

/-- The text of a value without numbers is typed as the value is. -/
theorem decode_compact {α : Type} (reader : Reader α) {value : Json} (h : Numberless value) :
    decode reader value.compact = decodeValue reader value := by
  have hread := readValue_compactChars value h (2 * (compactChars value).length + 2) (by omega) []
  rw [List.append_nil] at hread
  rw [decode, compact, String.toList_ofList, Document.read, hread, decodeValue]
  simp only
  cases reader value.toDocument with
  | error fault => rfl
  | ok x => rfl

end Stencil.Json
