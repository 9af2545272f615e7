import Stencil.Text.Hexadecimal
/-!
# Strings of TOML documents

A string stands between double quotes, where a backslash begins an escape, or between single quotes,
where every character stands for itself. Between three quotes of a kind it may go over several lines.

A string is read in two steps: first to its closing quotes, which an escaped quote is none of, and then
for what it says.
-/

namespace Stencil.Toml

/-- A reader takes something off the beginning of a text. -/
abbrev Reader (α : Type) := List Char → Option (α × List Char)

/-- Spaces and tabs. -/
def isBlank (c : Char) : Bool := c == ' ' || c == '\t'

/-- The characters of line ends. -/
def isLineEnd (c : Char) : Bool := c == '\n' || c == '\r'

/-- The characters that may stand on a line. -/
def isPrintable (c : Char) : Bool := c == '\t' || (32 ≤ c.toNat && c.toNat != 127)

/-- The text after the line end that it begins with. -/
def lineEnd? : List Char → Option (List Char)
  | '\n' :: rest => some rest
  | '\r' :: '\n' :: rest => some rest
  | _ => none

/-! ## To the closing quotes -/

/-- Whether the character begins an escape between such quotes. -/
def beginsEscape (quote c : Char) : Bool := quote == '"' && c == '\\'

/-- The characters up to the closing quote on the same line. `escaped` says whether an escape has
begun. -/
def readLine (quote : Char) : Bool → Reader (List Char)
  | _, [] => none
  | escaped, c :: rest =>
    if isLineEnd c then none
    else if c == quote && !escaped then some ([], rest)
    else (readLine quote (!escaped && beginsEscape quote c) rest).map fun (cs, rest) => (c :: cs, rest)

/-- The characters up to three closing quotes. Up to two more quotes before those belong to the
string. -/
def readLines (quote : Char) : Bool → Reader (List Char)
  | _, [] => none
  | escaped, c :: rest =>
    if [quote, quote, quote].isPrefixOf (c :: rest) && !escaped then
      let more := ((rest.drop 2).takeWhile (· == quote)).take 2
      some (more, rest.drop (2 + more.length))
    else
      (readLines quote (!escaped && beginsEscape quote c) rest).map fun (cs, rest) => (c :: cs, rest)

/-! ## What a string says -/

/-- The character that a one-letter escape stands for. -/
def escaped? (c : Char) : Option Char :=
  match c with
  | '"' => some '"'
  | '\\' => some '\\'
  | 'b' => some '\x08'
  | 'e' => some '\x1b'
  | 'f' => some '\x0c'
  | 'n' => some '\n'
  | 'r' => some '\r'
  | 't' => some '\t'
  | _ => none

/-- The character with the code point that digits say. -/
def codePoint? (digits : List Char) : Option Char :=
  match Text.hexNumber? digits with
  | some n => if n.isValidChar then some (Char.ofNat n) else none
  | none => none

/-- What a string in double quotes says. A backslash that ends a line joins it to the next
character that is no gap; `joining` says that such a character is still to come. -/
def unescape : Bool → List Char → Option (List Char)
  | _, [] => some []
  | _, '\\' :: 'x' :: a :: b :: rest =>
    match codePoint? [a, b], unescape false rest with
    | some c, some cs => some (c :: cs)
    | _, _ => none
  | _, '\\' :: 'u' :: a :: b :: c :: d :: rest =>
    match codePoint? [a, b, c, d], unescape false rest with
    | some c, some cs => some (c :: cs)
    | _, _ => none
  | _, '\\' :: 'U' :: a :: b :: c :: d :: e :: f :: g :: h :: rest =>
    match codePoint? [a, b, c, d, e, f, g, h], unescape false rest with
    | some c, some cs => some (c :: cs)
    | _, _ => none
  | _, '\\' :: c :: rest =>
    match escaped? c with
    | some c => (unescape false rest).map (c :: ·)
    | none =>
      if (lineEnd? ((c :: rest).dropWhile isBlank)).isSome then unescape true (c :: rest) else none
  | joining, '\r' :: '\n' :: rest =>
    if joining then unescape true rest else (unescape false rest).map ('\r' :: '\n' :: ·)
  | joining, c :: rest =>
    if joining && (isBlank c || c == '\n') then unescape true rest
    else if isPrintable c || c == '\n' then (unescape false rest).map (c :: ·)
    else none

/-- What a string in single quotes says. -/
def verbatim : List Char → Option (List Char)
  | [] => some []
  | '\r' :: '\n' :: rest => (verbatim rest).map ('\r' :: '\n' :: ·)
  | c :: rest => if isPrintable c || c == '\n' then (verbatim rest).map (c :: ·) else none

/-- What a string between such quotes says. -/
def said (quote : Char) (cs : List Char) : Option (List Char) :=
  if quote == '"' then unescape false cs else verbatim cs

/-! ## Strings -/

/-- A string on one line, after its opening quote. -/
def readQuoted (quote : Char) : Reader String := fun cs =>
  match readLine quote false cs with
  | some (inside, rest) => (said quote inside).map fun s => (String.ofList s, rest)
  | none => none

/-- A string on several lines, after its opening quotes. A line end right after those does not belong
to it. -/
def readLongQuoted (quote : Char) : Reader String := fun cs =>
  match readLines quote false ((lineEnd? cs).getD cs) with
  | some (inside, rest) => (said quote inside).map fun s => (String.ofList s, rest)
  | none => none

/-- A string. -/
def readString : Reader String
  | '"' :: '"' :: '"' :: cs => readLongQuoted '"' cs
  | '\'' :: '\'' :: '\'' :: cs => readLongQuoted '\'' cs
  | '"' :: cs => readQuoted '"' cs
  | '\'' :: cs => readQuoted '\'' cs
  | _ => none

end Stencil.Toml
