import Stencil.Text.Case
/-!
# Words of an identifier

An identifier is cut into words at separators and at three kinds of boundary between adjacent
characters: a lower-case letter before a capital (`redBlue`), the end of an acronym that runs into
a word (`HTTPController`) and every change between digits and other characters (`Forty40forty`).
The boundaries look at ASCII letters and digits only. Each pass cuts the pieces of the pass before
it, and empty pieces are dropped at the end.

The case conversions put the words together again: each capitalised, the same with the first in
lower case, or all in lower case with underscores between them.
-/

namespace Stencil.Text

/-- The characters that stand between words and belong to none. -/
def isSeparator (c : Char) : Bool := c == ' ' || c == '_' || c == '!'

/-- Whether to cut between two adjacent characters, given the character after them. -/
abbrev Boundary := Char → Char → Option Char → Bool

/-- A lower-case letter before a capital. -/
def lowerToUpper : Boundary := fun a b _ => a.isLower && b.isUpper

/-- The last capital of an acronym belongs to the word that follows it. -/
def acronymEnd : Boundary := fun a b next => a.isUpper && b.isUpper && next.any Char.isLower

/-- Exactly one of the two characters is a digit. -/
def digitChange : Boundary := fun a b _ => a.isDigit != b.isDigit

/-- Cuts a piece at every boundary inside it. -/
def cut (boundary : Boundary) : List Char → List (List Char)
  | [] => [[]]
  | [c] => [[c]]
  | c :: d :: rest =>
    if boundary c d rest.head? then [c] :: cut boundary (d :: rest)
    else (cut boundary (d :: rest)).modifyHead (c :: ·)

/-- Cuts every piece of a list. -/
def cutAll (boundary : Boundary) (pieces : List (List Char)) : List (List Char) :=
  pieces.flatMap (cut boundary)

/-- The words of an identifier, in order. -/
def words (cs : List Char) : List (List Char) :=
  cs.splitOnP isSeparator |> cutAll lowerToUpper |> cutAll acronymEnd |> cutAll digitChange
    |>.filter fun piece => !piece.isEmpty

/-- The word with its first character in upper case and the rest as it is. -/
def capitalize : List Char → List Char
  | [] => []
  | c :: cs => upperChar c ++ cs

/-- The words in lower case, with `_` between them. -/
def snakeChars (cs : List Char) : List Char := lowerChars (['_'].intercalate (words cs))

/-- The capitalised words in a row; acronyms survive. -/
def titleChars (cs : List Char) : List Char := (words cs).flatMap capitalize

/-- Like `titleChars`, with the whole first word in lower case. -/
def camelChars (cs : List Char) : List Char :=
  match words cs with
  | [] => []
  | first :: rest => lowerChars first ++ rest.flatMap capitalize

/-- The words of an identifier. -/
def splitWords (s : String) : List String := (words s.toList).map String.ofList

/-- `HTTPController` becomes `http_controller`. -/
def snakecase (s : String) : String := String.ofList (snakeChars s.toList)

/-- `one two` becomes `OneTwo`. -/
def titlecase (s : String) : String := String.ofList (titleChars s.toList)

/-- `RedBlue` becomes `redBlue`. -/
def camelcase (s : String) : String := String.ofList (camelChars s.toList)

end Stencil.Text
