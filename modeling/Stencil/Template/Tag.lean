import Stencil.Template.Expression
import Stencil.Text.Scan
/-!
# Tags and the text between them

A template is a sequence of texts and tags. A tag stands between double braces; a backslash before
the braces makes them text, and of several backslashes one goes and the braces stay a tag. A tag with
`~` at one of its ends takes the blanks on that side away.

Each tag is read with what is known about its line: whether it stands alone on it, and the blanks
before it.
-/

namespace Stencil.Template

open Json (skipGap)

/-- What a tag is for. -/
inductive Tag where
  /-- Prints the value of a call. -/
  | value (call : Call)
  /-- Opens a block, whose parameters get names. -/
  | opening (call : Call) (names : List String)
  /-- Begins the alternative of a block, which may be a block of its own. -/
  | alternative (next : Option (Call × List String))
  | closing (name : String)
  /-- Opens a block of text that is no template. -/
  | rawOpening (call : Call) (names : List String)
  | rawClosing (name : String)
  | inclusion (call : Call)
  | decorator (call : Call)
  | comment
deriving Repr, Inhabited

/-- A tag and what surrounds it. -/
structure PlacedTag where
  tag : Tag
  /-- Takes the blanks before it away. -/
  trimsBefore : Bool
  /-- Takes the blanks after it away. -/
  trimsAfter : Bool
  /-- Nothing but blanks stands on the line besides. -/
  alone : Bool
  /-- The blanks right before it. -/
  indent : List Char
deriving Repr, Inhabited

/-- A part of a template. -/
inductive Token where
  | text (cs : List Char)
  | tag (placed : PlacedTag)
deriving Repr, Inhabited

/-! ## Tags -/

/-- A tag as far as its own text says, and the text after it. -/
structure ReadTag where
  tag : Tag
  trimsBefore : Bool
  trimsAfter : Bool
  rest : List Char

/-- The end of a tag after its contents. -/
def closeTag (marks : String) (trimsBefore : Bool) (tag : Tag) (cs : List Char) : Option ReadTag :=
  let (trimsAfter, rest) := readFlag "~" (skipGap cs)
  (readMark marks (skipGap rest)).map fun ((), rest) => ⟨tag, trimsBefore, trimsAfter, rest⟩

/-- The names of a block's parameters, if they are given. -/
def readBlockNames (cs : List Char) : List String × List Char :=
  let names? := do
    let ((), rest) ← readMark "as" (skipGap cs)
    let ((), rest) ← readMark "|" (skipGap rest)
    let (first, rest) ← readName isSymbol (skipGap rest)
    match readName isSymbol (skipGap rest) with
    | some (second, rest) =>
      let ((), rest) ← readMark "|" (skipGap rest)
      return ([String.ofList first, String.ofList second], rest)
    | none =>
      let ((), rest) ← readMark "|" (skipGap rest)
      return ([String.ofList first], rest)
  names?.getD ([], cs)

/-- The parameters after the name of a call. -/
def readCallParams (name : Expr) (cs : List Char) : Option (Call × List Char) :=
  match readParams (2 * cs.length + 2) cs with
  | .found (params, named) rest => some (⟨name, params, named⟩, rest)
  | _ => none

/-- A call by a helper's name, and the names of the block's parameters. -/
def readLine (cs : List Char) : Option ((Call × List String) × List Char) := do
  let (name, rest) ← readName isSymbol (skipGap cs)
  let (call, rest) ← readCallParams (.word (String.ofList name)) rest
  let (names, rest) := readBlockNames rest
  return ((call, names), rest)

/-- A reference, or a call in parentheses. -/
def readNameExpr (cs : List Char) : Option (Expr × List Char) :=
  match readNested (2 * cs.length + 2) cs with
  | .found e rest => some (e, rest)
  | .faulty => none
  | .absent => readReference cs

/-- The contents of a tag that prints a value, which have to be followed by its end. -/
def readValueTag (finish : Tag → List Char → Option ReadTag) (cs : List Char) : Option ReadTag :=
  let cs := skipGap cs
  let applied :=
    match readApplied (2 * cs.length + 2) cs with
    | .found call rest => finish (.value call) rest
    | _ => none
  match applied with
  | some tag => some tag
  | none => (readNameExpr cs).bind fun (e, rest) => finish (.value ⟨e, [], []⟩) rest

/-- A tag within triple braces. -/
def readTriple (cs : List Char) : Option ReadTag := do
  let ((), rest) ← readMark "\x7b\x7b\x7b" cs
  let (before, rest) := readFlag "~" (skipGap rest)
  readValueTag (closeTag "\x7d\x7d\x7d" before) rest

/-- The end of a tag whose contents stand in braces of their own. -/
def closeInner (trimsBefore : Bool) (tag : Tag) (cs : List Char) : Option ReadTag := do
  let ((), rest) ← readMark "\x7d" (skipGap cs)
  closeTag "\x7d\x7d" trimsBefore tag rest

/-- A comment, long or short, after its opening mark. -/
def readComment (cs : List Char) : Option ReadTag :=
  let long := do
    let ((), rest) ← readMark "--" (skipGap cs)
    let (_, rest) ← Text.breakOn "--\x7d\x7d".toList rest
    return rest
  let rest? := long <|> (Text.breakOn "\x7d\x7d".toList cs).map (·.2)
  rest?.map fun rest => ⟨.comment, false, false, rest⟩

/-- The alternative of a block after its word. -/
def readAlternative (before : Bool) (cs : List Char) : Option ReadTag :=
  match closeTag "\x7d\x7d" before (.alternative none) cs with
  | some tag => some tag
  | none => do
    let (line, rest) ← readLine cs
    closeTag "\x7d\x7d" before (.alternative (some line)) rest

/-- A tag within double braces, after them. -/
def readDouble (cs : List Char) : Option ReadTag :=
  let (before, rest) := readFlag "~" (skipGap cs)
  let rest := skipGap rest
  let finish := closeTag "\x7d\x7d" before
  match rest with
  | '#' :: rest => do
    let ((call, names), rest) ← readLine rest
    finish (.opening call names) rest
  | '/' :: rest => do
    let (name, rest) ← readName isSymbol (skipGap rest)
    finish (.closing (String.ofList name)) rest
  | '&' :: rest => do
    let (e, rest) ← readNameExpr (skipGap rest)
    finish (.value ⟨e, [], []⟩) rest
  | '>' :: rest => do
    let rest := skipGap rest
    let (name, rest) ←
      match readFileName rest with
      | some (name, rest) => some (.word name, rest)
      | none => readNameExpr rest
    let (call, rest) ← readCallParams name rest
    finish (.inclusion call) rest
  | '*' :: rest => do
    let ((call, _), rest) ← readLine rest
    finish (.decorator call) rest
  | '^' :: rest => readAlternative before rest
  | '\x7b' :: rest => readValueTag (closeInner before) rest
  | rest =>
    match readMark "else" rest with
    | some ((), after) => readAlternative before after <|> readValueTag finish rest
    | none => readValueTag finish rest

/-- A tag within four braces, with the opening or the closing of raw text. -/
def readRawTag (cs : List Char) : Option ReadTag := do
  let ((), rest) ← readMark "\x7b\x7b\x7b\x7b" cs
  let (before, rest) := readFlag "~" (skipGap rest)
  match skipGap rest with
  | '/' :: rest => do
    let (name, rest) ← readName isSymbol (skipGap rest)
    closeTag "\x7d\x7d\x7d\x7d" before (.rawClosing (String.ofList name)) rest
  | rest => do
    let ((call, names), rest) ← readLine rest
    closeTag "\x7d\x7d\x7d\x7d" before (.rawOpening call names) rest

/-- The tag at the beginning of a text; `inRaw` if it has to end raw text. -/
def readTag (inRaw : Bool) (cs : List Char) : Option ReadTag :=
  if inRaw || (readMark "\x7b\x7b\x7b\x7b" cs).isSome then
    match readRawTag cs with
    | some tag =>
      match tag.tag, inRaw with
      | .rawClosing _, true => some tag
      | .rawOpening _ _, false => some tag
      | _, _ => none
    | none => none
  else match readMark "\x7b\x7b!" cs with
    | some ((), rest) => readComment rest
    | none =>
      match readTriple cs with
      | some tag => some tag
      | none => (readMark "\x7b\x7b" cs).bind fun ((), rest) => readDouble rest

/-! ## Texts -/

/-- The text up to a mark that is not escaped, and what follows it. -/
def readText (mark : List Char) : Nat → List Char → List Char × List Char
  | 0, cs => ([], cs)
  | _ + 1, [] => ([], [])
  | fuel + 1, c :: cs =>
    if mark.isPrefixOf (c :: cs) then ([], c :: cs)
    else
      let run := (c :: cs).takeWhile (· == '\\')
      let after := (c :: cs).drop run.length
      let escapes := "\x7b\x7b".toList.isPrefixOf after
      if run.length == 1 && escapes then
        let double := "\x7b\x7b\x7b\x7b".toList.isPrefixOf after
        let (braces, after) := after.splitAt (if double then 4 else 2)
        let (text, rest) := readText mark fuel after
        (braces ++ text, rest)
      else if 2 ≤ run.length && escapes then
        let (text, rest) := readText mark fuel after
        (run.drop 1 ++ text, rest)
      else
        let (text, rest) := readText mark fuel cs
        (c :: text, rest)

/-! ## Templates -/

/-- Spaces and tabs. -/
def isLineBlank (c : Char) : Bool := c == ' ' || c == '\t'

/-- The characters that end a line. -/
def isLineEnd (c : Char) : Bool := c == '\n' || c == '\r'

/-- Whether only blanks stand before here on the line; `before` is the text before, the nearest
character first. -/
def opensLine (before : List Char) : Bool :=
  match before.dropWhile isLineBlank with
  | c :: _ => isLineEnd c
  | [] => true

/-- Whether only blanks stand after here on the line, or nothing at all in the template. -/
def endsLine (after : List Char) : Bool :=
  match after.dropWhile isLineBlank with
  | c :: _ => isLineEnd c
  | [] => after.isEmpty

/-- The tag at its place. -/
def ReadTag.place (t : ReadTag) (before : List Char) : PlacedTag :=
  ⟨t.tag, t.trimsBefore, t.trimsAfter, opensLine before && endsLine t.rest,
    (before.takeWhile isLineBlank).reverse⟩

/-- Whether raw text follows the tag. -/
def Tag.opensRaw : Tag → Bool
  | .rawOpening _ _ => true
  | _ => false

/-- The text that was read before `rest`, with the nearest character first. -/
def readBefore (before cs rest : List Char) : List Char :=
  (cs.take (cs.length - rest.length)).reverse ++ before

/-- The texts and tags from here on. Raw text begins with its first character that is no gap. -/
def readTokens : Nat → Bool → List Char → List Char → Option (List Token)
  | 0, _, _, _ => none
  | fuel + 1, inRaw, before, cs =>
    let mark := if inRaw then "\x7b\x7b\x7b\x7b".toList else "\x7b\x7b".toList
    let start := if inRaw then skipGap cs else cs
    let (text, rest) := readText mark (start.length + 1) start
    let before := readBefore before cs rest
    let texts := if rest.length < start.length then [.text text] else []
    if rest.isEmpty then (if inRaw then none else some texts)
    else do
      let tag ← readTag inRaw rest
      let tokens ← readTokens fuel tag.tag.opensRaw (readBefore before rest tag.rest) tag.rest
      return texts ++ .tag (tag.place before) :: tokens

/-- The texts and tags of a template, if every tag is well formed. -/
def tokens? (cs : List Char) : Option (List Token) := readTokens (cs.length + 1) false [] cs

end Stencil.Template
