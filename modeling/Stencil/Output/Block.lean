import Stencil.Output.File
/-!
# Files in one text

A text carries several files, each as a block:

```text
<<levo filename:User.java directory:src/main/java>>
class User {}
<<levo>>
```

The directory is optional. Blocks are found from left to right and do not overlap: a body ends at the
first closing mark after its header, whatever stands in between. A header is broken by a line end; the
search goes on right behind the opening mark of a broken one. A header that no closing mark follows
ends the search. A block without a file name is passed over.
-/

namespace Stencil

open Text

namespace Block

/-- The beginning of a header. -/
def opening : List Char := "<<levo filename:".toList

/-- The end of a header. -/
def headerEnd : List Char := ">>".toList

/-- What stands before the directory in a header. -/
def directoryField : List Char := " directory:".toList

/-- The end of a block. -/
def closing : List Char := "<<levo>>".toList

/-- A header: the name of the file and, if it is given, its directory. -/
structure Header where
  fileName : List Char
  directory : Option (List Char)
deriving Repr, DecidableEq

/-- The header that the fields say. -/
def Header.ofFields (fields : List Char) : Header :=
  match breakOn directoryField fields with
  | some (fileName, directory) => ⟨fileName, some directory⟩
  | none => ⟨fields, none⟩

/-- The directory of the header, or the default if it gives none or an empty one. -/
def Header.directoryOr (h : Header) (default : String) : String :=
  match h.directory with
  | some (c :: cs) => String.ofList (c :: cs)
  | _ => default

/-- The header that begins the text, after its opening mark, and what follows it. -/
def readHeader (text : List Char) : Option (Header × List Char) :=
  match breakOn headerEnd text with
  | some (fields, rest) => if fields.contains '\n' then none else some (.ofFields fields, rest)
  | none => none

/-- Spaces and tabs. -/
def isInlineBlank (c : Char) : Bool := c == ' ' || c == '\t'

/-- Whether nothing but spaces and tabs stands before a line continuation. -/
def leadsIntoContinuation (cs : List Char) : Bool :=
  "!>\n".toList.isPrefixOf (cs.dropWhile isInlineBlank)

/-- The text without its line continuations: `!>` at the end of a line joins it to the next one, and
takes the spaces and tabs before it away. -/
def joinLines : List Char → List Char
  | '!' :: '>' :: '\n' :: rest => joinLines rest
  | c :: rest =>
    if isInlineBlank c && leadsIntoContinuation rest then joinLines rest else c :: joinLines rest
  | [] => []

/-- Spaces, tabs and line feeds. -/
def isBodyBlank (c : Char) : Bool := c == ' ' || c == '\t' || c == '\n'

/-- The body of a file from what stands between header and closing mark. -/
def cleanBody (body : List Char) : List Char := trim isBodyBlank (joinLines body)

/-- The file of a block, unless it has no name. -/
def toFile? (header : Header) (default : String) (body : List Char) : Option OutputFile :=
  if header.fileName.isEmpty then none
  else some ⟨String.ofList header.fileName, header.directoryOr default,
    Bytes.ofText (String.ofList (cleanBody body))⟩

theorem length_readHeader {text rest : List Char} {h : Header}
    (e : readHeader text = some (h, rest)) : rest.length ≤ text.length := by
  unfold readHeader at e
  split at e
  · next hb =>
    split at e
    · cases e
    · cases e; have := length_breakOn hb; omega
  · cases e

/-- What the first opening mark leads to, and what follows it: a block, or nothing if the header is
broken. No result means that the search ends. -/
def next? (text : List Char) : Option (Option (Header × List Char) × List Char) :=
  match breakOn opening text with
  | none => none
  | some (_, fields) =>
    match readHeader fields with
    | none => some (none, fields)
    | some (header, rest) =>
      match breakOn closing rest with
      | none => none
      | some (body, rest) => some (some (header, body), rest)

theorem length_next? {text rest : List Char} {block : Option (Header × List Char)}
    (e : next? text = some (block, rest)) : rest.length < text.length := by
  have hlen : opening.length = 16 := rfl
  unfold next? at e
  split at e
  · cases e
  · next hOpen =>
    have h1 := length_breakOn hOpen
    split at e
    · cases e; omega
    · next hHeader =>
      have h2 := length_readHeader hHeader
      split at e
      · cases e
      · next hClose =>
        have h3 := length_breakOn hClose
        cases e
        omega

/-- The files of all blocks of the text, in order. -/
def extractChars (default : String) (text : List Char) : List OutputFile :=
  match _h : next? text with
  | none => []
  | some (block, rest) =>
    (block.bind fun (header, body) => toFile? header default body).toList ++
      extractChars default rest
termination_by text.length
decreasing_by exact length_next? _h

end Block

/-- The files of all blocks of a text; those that name no directory get the default one. -/
def extractFiles (text defaultDirectory : String) : List OutputFile :=
  Block.extractChars defaultDirectory text.toList

end Stencil
