import Stencil.Toml.Scalar
/-!
# TOML documents

A document is a list of settings, `name = value`, each on lines of its own, under headings
`[[name]]`. A value is a string, a scalar, an array of values or a table of settings between braces; how
deep these may lie in one another is bounded. A name may have parts with dots between them. Comments go
from `#` to the end of the line.

This is the part of TOML that settings of text need. A document with a heading `[name]` is none here.
-/

namespace Stencil.Toml

/-- The parts of a name: what a table is called, and what is called so in it. -/
abbrev Name := List String

/-- A value. -/
inductive Value where
  | text (s : String)
  /-- A truth value, a number or a moment. -/
  | scalar (spelling : String)
  | array (items : List Value)
  | table (settings : List (Name × Value))
deriving Repr, Inhabited

/-- Settings in their order. -/
abbrev Settings := List (Name × Value)

/-- Whether none of the settings is set twice, or set in another that is set as a whole. -/
def Settings.agree (settings : Settings) : Bool :=
  (settings.map (·.1)).Pairwise fun a b => !a.isPrefixOf b && !b.isPrefixOf a

/-- The settings under a heading. -/
structure Section where
  heading : Name
  settings : Settings
deriving Repr

/-- A document: the settings before the first heading, and the sections. -/
structure Document where
  settings : Settings
  sections : List Section
deriving Repr

/-! ## Gaps -/

/-- The text without the blanks at its beginning. -/
def skipBlanks (cs : List Char) : List Char := cs.dropWhile isBlank

/-- The text without the blanks, line ends and comments at its beginning; `comment` says whether a
comment has begun. -/
def skipGap : Bool → List Char → List Char
  | _, [] => []
  | _, '\n' :: rest => skipGap false rest
  | _, '\r' :: '\n' :: rest => skipGap false rest
  | comment, c :: rest =>
    if c == '#' || isBlank c || (comment && isPrintable c) then skipGap (comment || c == '#') rest
    else c :: rest

/-- The text after the end of a line, on which nothing but a comment may stand. -/
def finishLine? (cs : List Char) : Option (List Char) :=
  let cs := skipBlanks cs
  let cs := if cs.head? == some '#' then cs.dropWhile isPrintable else cs
  if cs.isEmpty then some [] else lineEnd? cs

/-! ## Settings -/

/-- The characters of a name without quotes. -/
def isNameChar (c : Char) : Bool := c.isAlphanum || c == '_' || c == '-'

/-- A part of a name. -/
def readPart : Reader String
  | '"' :: cs => readQuoted '"' cs
  | '\'' :: cs => readQuoted '\'' cs
  | cs =>
    match cs.takeWhile isNameChar with
    | [] => none
    | part => some (String.ofList part, cs.dropWhile isNameChar)

/-- The parts of a name, with blanks around the dots, and the blanks after it. -/
def readParts : Nat → Reader Name
  | 0, _ => none
  | fuel + 1, cs =>
    match readPart cs with
    | none => none
    | some (part, rest) =>
      match skipBlanks rest with
      | '.' :: rest => (readParts fuel (skipBlanks rest)).map fun (name, rest) => (part :: name, rest)
      | rest => some ([part], rest)

/-- A name, and the blanks after it. -/
def readName : Reader Name := fun cs => readParts (cs.length + 1) cs

/-- A name and the sign after it, with the blanks around. -/
def readAssigned : Reader Name := fun cs =>
  match readName cs with
  | some (name, '=' :: rest) => some (name, skipBlanks rest)
  | _ => none

/-- How deep arrays and tables may lie in one another. -/
def maxDepth : Nat := 80

mutual

/-- A value in which arrays and tables go so deep. -/
def readValue (depth : Nat) : Nat → Reader Value
  | 0, _ => none
  | fuel + 1, cs =>
    match depth, cs with
    | 0, '[' :: _ => none
    | 0, '\x7b' :: _ => none
    | depth + 1, '[' :: rest =>
      (readItems depth fuel rest).map fun (items, rest) => (.array items, rest)
    | depth + 1, '\x7b' :: rest =>
      match readEntries depth fuel rest with
      | some (settings, rest) =>
        if Settings.agree settings then some (.table settings, rest) else none
      | none => none
    | _, '"' :: _ => (readString cs).map fun (s, rest) => (.text s, rest)
    | _, '\'' :: _ => (readString cs).map fun (s, rest) => (.text s, rest)
    | _, _ => (readScalar cs).map fun (s, rest) => (.scalar s, rest)

/-- The items of an array from here on. A comma may follow the last one. -/
def readItems (depth : Nat) : Nat → Reader (List Value)
  | 0, _ => none
  | fuel + 1, cs =>
    match skipGap false cs with
    | ']' :: rest => some ([], rest)
    | cs =>
      match readValue depth fuel cs with
      | none => none
      | some (item, rest) =>
        match skipGap false rest with
        | ',' :: rest => (readItems depth fuel rest).map fun (items, rest) => (item :: items, rest)
        | ']' :: rest => some ([item], rest)
        | _ => none

/-- The settings of a table from here on. A comma may follow the last one. -/
def readEntries (depth : Nat) : Nat → Reader Settings
  | 0, _ => none
  | fuel + 1, cs =>
    match skipGap false cs with
    | '\x7d' :: rest => some ([], rest)
    | cs =>
      match readAssigned cs with
      | none => none
      | some (name, rest) =>
        match readValue depth fuel rest with
        | none => none
        | some (value, rest) =>
          match skipGap false rest with
          | ',' :: rest =>
            (readEntries depth fuel rest).map fun (settings, rest) =>
              ((name, value) :: settings, rest)
          | '\x7d' :: rest => some ([(name, value)], rest)
          | _ => none

end

/-! ## Documents -/

/-- A setting on lines of its own. -/
def readSetting : Reader (Name × Value) := fun cs =>
  match readAssigned cs with
  | none => none
  | some (name, rest) =>
    match readValue maxDepth (2 * rest.length + 1) rest with
    | none => none
    | some (value, rest) => (finishLine? rest).map ((name, value), ·)

/-- A heading on a line of its own, after its opening brackets. -/
def readHeading : Reader Name := fun cs =>
  match readName (skipBlanks cs) with
  | some (name, ']' :: ']' :: rest) => (finishLine? rest).map (name, ·)
  | _ => none

/-- The document from here on. -/
def readDocument : Nat → List Char → Option Document
  | 0, _ => none
  | fuel + 1, cs =>
    match skipGap false cs with
    | [] => some ⟨[], []⟩
    | '[' :: '[' :: rest => do
      let (heading, rest) ← readHeading rest
      let doc ← readDocument fuel rest
      return ⟨[], ⟨heading, doc.settings⟩ :: doc.sections⟩
    | cs => do
      let (setting, rest) ← readSetting cs
      let doc ← readDocument fuel rest
      return { doc with settings := setting :: doc.settings }

/-- The document that a text is. A byte order mark may stand at its beginning. -/
def Document.parse? (text : String) : Option Document :=
  let cs := match text.toList with
    | '\ufeff' :: rest => rest
    | cs => cs
  readDocument (cs.length + 1) cs

end Stencil.Toml
