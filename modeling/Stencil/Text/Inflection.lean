import Stencil.Text.Case
import Stencil.Text.Scan
/-!
# English plurals

The plural of a word in lower case: words without a plural stay, a few words have a plural of their
own, and all others follow the first of an ordered list of rules on endings that fits. In a phrase
whose words are joined by `_` only the last word changes.

A rule is data: which endings it fits, how many characters it takes off, and what it puts on. The
last rule fits every word, so every word has a plural.
-/

namespace Stencil.Text

/-- One place of an ending. -/
inductive Glyph where
  | oneOf (letters : List Char)
  | noneOf (letters : List Char)
deriving Repr, DecidableEq

/-- A character as the rules see it: in lower case, and the long s as an s. -/
def foldLetter (c : Char) : Char := if c.toNat = 0x17F then 's' else c.toLower

/-- Whether a character may stand at the place. -/
def Glyph.admits : Glyph → Char → Bool
  | oneOf letters, c => letters.contains (foldLetter c)
  | noneOf letters, c => !letters.contains (foldLetter c)

/-- The places that spell a text. -/
def spelled (s : String) : List Glyph := s.toList.map fun c => .oneOf [c]

/-- A rule on the ending of a word. -/
structure PluralRule where
  /-- The rule fits if the word ends in one of these. -/
  endings : List (List Glyph)
  /-- The ending has to be the whole word. -/
  whole : Bool
  /-- So many characters go. -/
  dropped : Nat
  /-- What takes their place. -/
  added : List Char
deriving Repr, DecidableEq

/-- Whether the word ends in the places, or consists of them if `whole`. -/
def endsIn (whole : Bool) (word : List Char) (ending : List Glyph) : Bool :=
  ending.length ≤ word.length && (!whole || ending.length == word.length) &&
    ((word.drop (word.length - ending.length)).zip ending).all fun (c, g) => g.admits c

/-- Whether the rule is one for the word. -/
def PluralRule.fits (rule : PluralRule) (word : List Char) : Bool :=
  rule.endings.any (endsIn rule.whole word)

/-- The word with its ending changed. -/
def PluralRule.apply (rule : PluralRule) (word : List Char) : List Char :=
  word.take (word.length - rule.dropped) ++ rule.added

/-- Words that are their own plural. -/
def uncountables : List String :=
  ["equipment", "information", "rice", "money", "species", "series", "fish", "sheep", "jeans",
    "police"]

/-- Words with a plural of their own. -/
def irregulars : List (String × String) :=
  [("person", "people"), ("man", "men"), ("child", "children"), ("sex", "sexes"),
    ("move", "moves"), ("zombie", "zombies")]

/-- The rules on endings, the most specific first. -/
def pluralRules : List PluralRule :=
  [ ⟨[spelled "quiz"], false, 0, "zes".toList⟩,
    ⟨[spelled "oxen"], true, 0, []⟩,
    ⟨[spelled "ox"], true, 0, "en".toList⟩,
    ⟨[spelled "mice", spelled "lice"], false, 3, "ice".toList⟩,
    ⟨[spelled "mouse", spelled "louse"], false, 4, "ice".toList⟩,
    ⟨["matrix", "matrex", "vertix", "vertex", "indix", "index"].map spelled, false, 2,
      "ices".toList⟩,
    ⟨["x", "ch", "ss", "sh"].map spelled, false, 0, "es".toList⟩,
    ⟨[.noneOf "aeiouy".toList :: spelled "y", spelled "quy"], false, 1, "ies".toList⟩,
    ⟨[spelled "hive"], false, 0, "s".toList⟩,
    ⟨[.noneOf ['f'] :: spelled "fe"], false, 2, "ves".toList⟩,
    ⟨[.oneOf ['l', 'r'] :: spelled "f"], false, 1, "ves".toList⟩,
    ⟨[spelled "sis"], false, 3, "ses".toList⟩,
    ⟨[.oneOf ['t', 'i'] :: spelled "a"], false, 1, "a".toList⟩,
    ⟨[.oneOf ['t', 'i'] :: spelled "um"], false, 2, "a".toList⟩,
    ⟨[spelled "buffalo", spelled "tomato"], false, 1, "oes".toList⟩,
    ⟨[spelled "bus"], false, 1, "ses".toList⟩,
    ⟨[spelled "alias", spelled "status"], false, 0, "es".toList⟩,
    ⟨[spelled "octopi", spelled "viri"], false, 1, "i".toList⟩,
    ⟨[spelled "octopus", spelled "virus"], false, 2, "i".toList⟩,
    ⟨[spelled "axis", spelled "testis"], true, 2, "es".toList⟩,
    ⟨[spelled "s"], false, 1, "s".toList⟩,
    ⟨[[]], false, 0, "s".toList⟩ ]

/-- The plural of one word. -/
def pluralWord (word : List Char) : List Char :=
  let lowered := String.ofList (lowerChars word)
  if uncountables.contains lowered then word
  else match irregulars.lookup lowered with
    | some plural => plural.toList
    | none =>
      match pluralRules.find? (·.fits word) with
      | some rule => rule.apply word
      | none => word

/-- The phrase up to its last underscore, that one included. -/
def phraseHead (phrase : List Char) : List Char :=
  (phrase.reverse.dropWhile (· != '_')).reverse

/-- The last word of the phrase. -/
def phraseLast (phrase : List Char) : List Char := takeEnd (· != '_') phrase

/-- The plural of a phrase: the last word in its plural, the others as they are. -/
def inflectChars (phrase : List Char) : List Char :=
  if phrase.isEmpty then [] else phraseHead phrase ++ pluralWord (phraseLast phrase)

/-- The plural of a phrase whose words are joined by `_`. -/
def inflect (phrase : String) : String := String.ofList (inflectChars phrase.toList)

end Stencil.Text
