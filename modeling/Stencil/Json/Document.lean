import Stencil.Json.Basic
import Stencil.Text.Hexadecimal
/-!
# JSON documents as far as they go

Reading a document never fails: what the text says up to its first mistake becomes a tree, and the
mistake itself is a leaf of it or the ending of an array or object. Whoever gives the tree a type
walks it in reading order, so of a wrong type and a mistake in the text the one that comes first
counts.

There are two ways to walk over a value. Where it is used, each string and number is evaluated, so a
lone surrogate or a number beyond the greatest one is a mistake. Where it is passed over only its form
counts. A mistake can be of two kinds in the two ways, so it is recorded for both.
-/

namespace Stencil.Json

open Decimal

/-- What kind of value is meant by a mistake in types. -/
inductive Found where
  | null
  | bool (b : Bool)
  | number (n : Number)
  | text (s : String)
  | array
  | object
deriving Repr, DecidableEq

/-- What was wanted instead. -/
inductive Wanted where
  | text
  | bool
  | array
  | record (name : String)
deriving Repr, DecidableEq

/-- What is wrong with a document. -/
inductive Fault where
  /-- The text is no JSON. -/
  | malformed
  /-- The text ends too early. -/
  | cutShort
  /-- A value of one kind stands where another is wanted. -/
  | mismatch (found : Found) (wanted : Wanted)
  /-- An array of `length` items has more than a record has fields. -/
  | excess (length : Nat)
  /-- A field of a record occurs twice. -/
  | repeated (field : String)
deriving Repr, DecidableEq

/-- A mistake in the text, as it appears where the value is used and where it is passed over. -/
structure Mistake where
  used : Fault
  passed : Fault
deriving Repr, DecidableEq

/-- A mistake that is the same in both ways. -/
def Mistake.both (fault : Fault) : Mistake := ⟨fault, fault⟩

/-- A document up to its first mistake. -/
inductive Document where
  | null
  | bool (b : Bool)
  /-- A number; nothing if it is beyond the greatest one. -/
  | number (n? : Option Number)
  /-- A string; nothing if it has a lone surrogate. -/
  | text (s? : Option String)
  /-- The items and the mistake after them, if there is one. -/
  | array (items : List Document) (mistake? : Option Mistake)
  /-- The members and the mistake after them, if there is one. A name with a lone surrogate is
  nothing. -/
  | object (members : List (Option String × Document)) (mistake? : Option Mistake)
  | broken (mistake : Mistake)
deriving Repr, Inhabited

/-- The characters between tokens. -/
def isGap (c : Char) : Bool := c == ' ' || c == '\n' || c == '\t' || c == '\r'

/-- The text from its next token on. -/
def skipGap (cs : List Char) : List Char := cs.dropWhile isGap

/-! ## Strings -/

/-- A part of a string: a character, or a code unit given by its number. -/
inductive Piece where
  | char (c : Char)
  | unit (n : Nat)
deriving Repr, DecidableEq

/-- The code unit of four hexadecimal digits. -/
def unit? (a b c d : Char) : Option Nat := Text.hexNumber? [a, b, c, d]

/-- The character that a one-letter escape stands for. -/
def escaped? (c : Char) : Option Char :=
  match c with
  | '"' => some '"'
  | '\\' => some '\\'
  | '/' => some '/'
  | 'b' => some '\x08'
  | 'f' => some '\x0c'
  | 'n' => some '\n'
  | 'r' => some '\r'
  | 't' => some '\t'
  | _ => none

/-- The parts of a string after its opening quote, and the text after its closing quote or the
mistake in it. -/
def pieces : List Char → List Piece × Except Fault (List Char)
  | [] => ([], .error .cutShort)
  | '"' :: rest => ([], .ok rest)
  | '\\' :: 'u' :: digits =>
    match digits with
    | a :: b :: c :: d :: rest =>
      match unit? a b c d with
      | some n => let (ps, ending) := pieces rest; (.unit n :: ps, ending)
      | none => ([], .error .malformed)
    | few => ([], .error (if (String.ofList few).utf8ByteSize < 4 then .cutShort else .malformed))
  | ['\\'] => ([], .error .cutShort)
  | '\\' :: c :: rest =>
    match escaped? c with
    | some d => let (ps, ending) := pieces rest; (.char d :: ps, ending)
    | none => ([], .error .malformed)
  | c :: rest =>
    if c.toNat < 32 then ([], .error .malformed)
    else let (ps, ending) := pieces rest; (.char c :: ps, ending)

/-- Whether the unit is the first half of a pair. -/
def isLead (n : Nat) : Bool := 0xD800 ≤ n && n < 0xDC00

/-- Whether the unit is the second half of a pair. -/
def isTrail (n : Nat) : Bool := 0xDC00 ≤ n && n < 0xE000

/-- The characters of the parts; nothing if a half of a pair stands alone. Only in a string that has
no end may the last part be a first half. -/
def joinUnits (ended : Bool) : List Piece → Option (List Char)
  | [] => some []
  | .char c :: ps => (joinUnits ended ps).map (c :: ·)
  | .unit n :: ps =>
    if isTrail n then none
    else if isLead n then
      match ps with
      | .unit m :: ps =>
        if isTrail m then
          (joinUnits ended ps).map (Char.ofNat ((n - 0xD800) * 1024 + (m - 0xDC00) + 0x10000) :: ·)
        else none
      | .char _ :: _ => none
      | [] => if ended then none else some []
    else (joinUnits ended ps).map (Char.ofNat n :: ·)

/-- The string after an opening quote and the text after it, or the mistake in it. -/
def readString (cs : List Char) : Except Mistake (Option String × List Char) :=
  match pieces cs with
  | (ps, .ok rest) => .ok ((joinUnits true ps).map String.ofList, rest)
  | (ps, .error fault) =>
    .error ⟨if (joinUnits false ps).isSome then fault else .malformed, fault⟩

/-! ## Numbers -/

/-- The digits at the beginning of the text, and the rest. -/
def takeDigits : List Char → List Nat × List Char
  | [] => ([], [])
  | c :: cs =>
    if c.isDigit then let (ds, rest) := takeDigits cs; ((c.toNat - 48) :: ds, rest)
    else ([], c :: cs)

/-- A mistake where a digit is wanted: at the end of the text it is one of its own if the number is
used. -/
def digitMissing (cs : List Char) : Mistake :=
  ⟨if cs.isEmpty then .cutShort else .malformed, .malformed⟩

/-- The digits before the point. -/
def readWhole (cs : List Char) : Except Mistake (List Nat × List Char) :=
  match takeDigits cs with
  | ([], _) => .error (digitMissing cs)
  | (0 :: _ :: _, _) => .error (.both .malformed)
  | (ds, rest) => .ok (ds, rest)

/-- The point and the digits after it, if they are there. -/
def readFraction : List Char → Except Mistake (Option (List Nat) × List Char)
  | '.' :: cs =>
    match takeDigits cs with
    | ([], _) => .error (digitMissing cs)
    | (ds, rest) => .ok (some ds, rest)
  | cs => .ok (none, cs)

/-- The number of a list of digits. -/
def ofDigits (ds : List Nat) : Nat := ds.foldl (fun n d => n * 10 + d) 0

/-- An exponent's sign and digits. -/
def readPower (negative : Bool) (cs : List Char) : Except Mistake (Option Int × List Char) :=
  match takeDigits cs with
  | ([], _) => .error (digitMissing cs)
  | (ds, rest) => .ok (some (if negative then -(ofDigits ds : Int) else ofDigits ds), rest)

/-- The exponent, if it is there. -/
def readExponent : List Char → Except Mistake (Option Int × List Char)
  | c :: cs =>
    if c = 'e' ∨ c = 'E' then
      match cs with
      | '+' :: cs => readPower false cs
      | '-' :: cs => readPower true cs
      | cs => readPower false cs
    else .ok (none, c :: cs)
  | [] => .ok (none, [])

/-- The number after its sign. -/
def readNumber (negative : Bool) (cs : List Char) : Except Mistake (Scientific × List Char) := do
  let (whole, cs) ← readWhole cs
  let (fraction, cs) ← readFraction cs
  let (exponent, cs) ← readExponent cs
  return (⟨negative, whole, fraction, exponent⟩, cs)

/-- The number after its sign, as a document. -/
def numberDocument (negative : Bool) (cs : List Char) : Document × List Char :=
  match readNumber negative cs with
  | .ok (s, rest) => (.number s.toNumber?, rest)
  | .error mistake => (.broken mistake, [])

/-! ## Values -/

/-- The rest of a keyword, which stands for `value`. -/
def readKeyword (value : Document) : List Char → List Char → Document × List Char
  | [], rest => (value, rest)
  | _ :: _, [] => (.broken (.both .cutShort), [])
  | k :: ks, c :: cs =>
    if k = c then readKeyword value ks cs else (.broken (.both .malformed), [])

mutual

/-- The value at the beginning of the text, and what follows it; nothing follows a mistake. -/
def readValue : Nat → List Char → Document × List Char
  | 0, _ => (.broken (.both .malformed), [])
  | fuel + 1, cs =>
    match skipGap cs with
    | [] => (.broken (.both .cutShort), [])
    | 'n' :: rest => readKeyword .null "ull".toList rest
    | 't' :: rest => readKeyword (.bool true) "rue".toList rest
    | 'f' :: rest => readKeyword (.bool false) "alse".toList rest
    | '"' :: rest =>
      match readString rest with
      | .ok (s?, rest) => (.text s?, rest)
      | .error mistake => (.broken mistake, [])
    | '[' :: rest =>
      match skipGap rest with
      | [] => (.array [] (some (.both .cutShort)), [])
      | ']' :: rest => (.array [] none, rest)
      | _ :: _ => let (items, mistake?, rest) := readItems fuel rest; (.array items mistake?, rest)
    | '\x7b' :: rest =>
      match skipGap rest with
      | '\x7d' :: rest => (.object [] none, rest)
      | _ =>
        let (members, mistake?, rest) := readMembers fuel rest
        (.object members mistake?, rest)
    | '-' :: rest => numberDocument true rest
    | c :: rest =>
      if c.isDigit then numberDocument false (c :: rest) else (.broken (.both .malformed), [])

/-- The items from here on, the mistake after them, and what follows the array. -/
def readItems : Nat → List Char → List Document × Option Mistake × List Char
  | 0, _ => ([], some (.both .malformed), [])
  | fuel + 1, cs =>
    let (item, rest) := readValue fuel cs
    match skipGap rest with
    | [] => ([item], some (.both .cutShort), [])
    | ',' :: rest =>
      let (items, mistake?, rest) := readItems fuel rest
      (item :: items, mistake?, rest)
    | ']' :: rest => ([item], none, rest)
    | _ => ([item], some (.both .malformed), [])

/-- The members from here on, the mistake after them, and what follows the object. -/
def readMembers : Nat → List Char → List (Option String × Document) × Option Mistake × List Char
  | 0, _ => ([], some (.both .malformed), [])
  | fuel + 1, cs =>
    match skipGap cs with
    | [] => ([], some (.both .cutShort), [])
    | '"' :: rest =>
      match readString rest with
      | .error mistake => ([], some mistake, [])
      | .ok (name?, rest) =>
        let (value, rest) :=
          match skipGap rest with
          | [] => (.broken (.both .cutShort), [])
          | ':' :: rest => readValue fuel rest
          | _ => (.broken (.both .malformed), [])
        match skipGap rest with
        | [] => ([(name?, value)], some (.both .cutShort), [])
        | ',' :: rest =>
          let (members, mistake?, rest) := readMembers fuel rest
          ((name?, value) :: members, mistake?, rest)
        | '\x7d' :: rest => ([(name?, value)], none, rest)
        | _ => ([(name?, value)], some (.both .malformed), [])
    | _ => ([], some (.both .malformed), [])

end

/-- The value at the beginning of a text, and what follows it. -/
def Document.read (cs : List Char) : Document × List Char := readValue (2 * cs.length + 2) cs

/-! ## Walking over a document -/

mutual

/-- The first mistake in a value that is passed over. -/
def Document.passed : Document → Option Fault
  | .broken mistake => some mistake.passed
  | .array items mistake? =>
    match passedItems items with
    | some fault => some fault
    | none => mistake?.map Mistake.passed
  | .object members mistake? =>
    match passedMembers members with
    | some fault => some fault
    | none => mistake?.map Mistake.passed
  | _ => none

/-- The first mistake in items that are passed over. -/
def passedItems : List Document → Option Fault
  | [] => none
  | item :: items =>
    match item.passed with
    | some fault => some fault
    | none => passedItems items

/-- The first mistake in members that are passed over. -/
def passedMembers : List (Option String × Document) → Option Fault
  | [] => none
  | (_, value) :: members =>
    match value.passed with
    | some fault => some fault
    | none => passedMembers members

end

/-- Passes over the value. -/
def Document.skip (d : Document) : Except Fault Unit :=
  match d.passed with
  | some fault => .error fault
  | none => .ok ()

/-- The mistake at the end of an array or object whose parts are used. -/
def ending (mistake? : Option Mistake) : Except Fault Unit :=
  match mistake? with
  | some mistake => .error mistake.used
  | none => .ok ()

/-! ## Documents and values -/

/-- How many arrays and objects may stand inside one another. -/
def maxDepth : Nat := 127

mutual

/-- The value of a document without mistakes, in which at most `depth` arrays and objects stand inside
one another. Of members with one name the last stays. -/
def Document.toJson? : Nat → Document → Option Json
  | _, .null => some .null
  | _, .bool b => some (.bool b)
  | _, .number n? => n?.map .number
  | _, .text s? => s?.map .text
  | 0, .array _ _ => none
  | 0, .object _ _ => none
  | depth + 1, .array items none => (itemsToJson? depth items).map .array
  | depth + 1, .object members none => (membersToJson? depth members).map Json.ofEntries
  | _, _ => none

/-- The values of items. -/
def itemsToJson? : Nat → List Document → Option (List Json)
  | _, [] => some []
  | depth, item :: items =>
    match item.toJson? depth, itemsToJson? depth items with
    | some x, some xs => some (x :: xs)
    | _, _ => none

/-- The names and values of members. -/
def membersToJson? : Nat → List (Option String × Document) → Option (List (String × Json))
  | _, [] => some []
  | depth, (name?, value) :: members =>
    match name?, value.toJson? depth, membersToJson? depth members with
    | some name, some x, some xs => some ((name, x) :: xs)
    | _, _, _ => none

end

/-- The value that a whole text says. -/
def parse? (text : List Char) : Option Json :=
  match Document.read text with
  | (d, rest) => if (skipGap rest).isEmpty then d.toJson? maxDepth else none

mutual

/-- A value as a document without mistakes. -/
def toDocument : Json → Document
  | .null => .null
  | .bool b => .bool b
  | .number n => .number (some n)
  | .text s => .text (some s)
  | .array items => .array (itemsToDocument items) none
  | .object members => .object (membersToDocument members) none

/-- Items as documents. -/
def itemsToDocument : List Json → List Document
  | [] => []
  | x :: xs => x.toDocument :: itemsToDocument xs

/-- Members as documents. -/
def membersToDocument : List (String × Json) → List (Option String × Document)
  | [] => []
  | (name, x) :: xs => (some name, x.toDocument) :: membersToDocument xs

end

end Stencil.Json
