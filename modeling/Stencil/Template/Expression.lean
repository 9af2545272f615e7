import Stencil.Json.Document
/-!
# Expressions of templates

What stands between the braces of a tag. A reference leads to a value of the data, seen from where the
template is being executed, or to a variable of the loop. A call names a helper and gives it
parameters by position and by name; a call inside of parentheses is a parameter itself.

The readers take an expression off the beginning of a text. Blanks may stand between the parts of a
call, but not inside a reference.
-/

namespace Stencil.Template

/-- One step of a reference. -/
inductive Segment where
  /-- To the data around. -/
  | up
  /-- To the whole data. -/
  | root
  | name (s : String)
deriving Repr, DecidableEq

/-- Where a value is looked up. -/
inductive Reference where
  | data (segments : List Segment)
  /-- A variable, `level` levels up. -/
  | variable (level : Nat) (name : String)
deriving Repr, DecidableEq

/-- A parameter, or the name of a call. -/
inductive Expr where
  /-- The name of a helper. -/
  | word (name : String)
  /-- A reference as it is spelled. -/
  | reference (spelling : String) (target : Reference)
  | literal (value : Json)
  | call (name : Expr) (params : List Expr) (named : List (String × Expr))
deriving Repr, Inhabited

/-- A call of a helper. -/
structure Call where
  name : Expr
  params : List Expr
  named : List (String × Expr)
deriving Repr, Inhabited

/-- Whether the call gives no parameters. -/
def Call.isBare (call : Call) : Bool := call.params.isEmpty && call.named.isEmpty

/-- A reader takes something off the beginning of a text. -/
abbrev Reader (α : Type) := List Char → Option (α × List Char)

/-! ## Words and references -/

/-- The characters of names. -/
def isSymbol (c : Char) : Bool :=
  c.isAlphanum || c == '_' || c == '-' || c == '$' || c == ':' || 128 ≤ c.toNat

/-- The characters in the names of included templates. -/
def isFileSymbol (c : Char) : Bool :=
  c.isAlphanum || c == '_' || c == '-' || c == '/' || c == '.' || c == '@' || 128 ≤ c.toNat

/-- A name of such characters. -/
def readName (p : Char → Bool) : Reader (List Char) := fun cs =>
  match cs.takeWhile p with
  | [] => none
  | name => some (name, cs.dropWhile p)

/-- A name between single quotes, which belong to it, after the first of them. -/
def readQuotedName : Reader (List Char)
  | '\\' :: '\'' :: cs =>
    match readQuotedName cs with
    | some (name, rest) => some ('\\' :: '\'' :: name, rest)
    | none => none
  | '\'' :: cs => some (['\''], cs)
  | c :: cs =>
    match readQuotedName cs with
    | some (name, rest) => some (c :: name, rest)
    | none => none
  | [] => none

/-- The name of an included template. -/
def readFileName : Reader String
  | '\'' :: c :: cs =>
    if c == '\'' then none
    else (readQuotedName (c :: cs)).map fun (name, rest) => (String.ofList ('\'' :: name), rest)
  | cs => (readName isFileSymbol cs).map fun (name, rest) => (String.ofList name, rest)

/-- A text that has to stand here. -/
def readMark (mark : String) : Reader Unit := fun cs =>
  (mark.toList.isPrefixOf? cs).map ((), ·)

/-- A text that may stand here, and whether it does. -/
def readFlag (mark : String) (cs : List Char) : Bool × List Char :=
  match readMark mark cs with
  | some ((), rest) => (true, rest)
  | none => (false, cs)

/-- Whether a name could go on here. -/
def startsSymbol : List Char → Bool
  | c :: _ => isSymbol c
  | [] => false

/-- A word that is not the beginning of a longer one. -/
def readKeyword (word : String) : Reader Unit := fun cs =>
  match readMark word cs with
  | some ((), rest) => if startsSymbol rest then none else some ((), rest)
  | none => none

/-- The mark between the steps of a reference. -/
def readStepMark : Reader Unit
  | '/' :: cs => some ((), cs)
  | '.' :: cs => some ((), cs)
  | _ => none

/-- A name in a reference, plain or between brackets. -/
def readItem : Reader String
  | '[' :: cs =>
    match cs.dropWhile (· != ']') with
    | _ :: rest => some (String.ofList (cs.takeWhile (· != ']')), rest)
    | [] => none
  | cs => (readName isSymbol cs).map fun (name, rest) => (String.ofList name, rest)

/-- The word for the place where a template is being executed makes no step. -/
def itemSegments (item : String) : List Segment := if item == "this" then [] else [.name item]

/-- The steps to the data around. -/
def readUps : Nat → List Char → List Segment × List Char
  | 0, cs => ([], cs)
  | fuel + 1, cs =>
    match cs with
    | '.' :: '.' :: '/' :: rest
    | '.' :: '.' :: '.' :: rest => let (ups, rest) := readUps fuel rest; (.up :: ups, rest)
    | cs => ([], cs)

/-- The further names of a reference. -/
def readItems : Nat → List Char → List Segment × List Char
  | 0, cs => ([], cs)
  | fuel + 1, cs =>
    match (readStepMark cs).bind fun ((), rest) => readItem rest with
    | some (item, rest) =>
      let (items, rest) := readItems fuel rest
      (itemSegments item ++ items, rest)
    | none => ([], cs)

/-- What may stand at the beginning of a reference and makes no step. -/
def skipHere (cs : List Char) : List Char :=
  match cs with
  | '.' :: '/' :: rest => rest
  | cs =>
    match (readMark "this" cs).bind fun ((), rest) => readStepMark rest with
    | some ((), rest) => rest
    | none => cs

/-- The step to the whole data, if a reference begins with it. -/
def readRoot (cs : List Char) : List Segment × List Char :=
  match (readMark "@root" cs).bind fun ((), rest) => readStepMark rest with
  | some ((), rest) => ([.root], rest)
  | none => ([], cs)

/-- The number of steps to the data around at the beginning. -/
def countUps : List Segment → Nat
  | .up :: rest => countUps rest + 1
  | _ => 0

/-- The variable that steps after `@` lead to. Without a name they lead nowhere else. -/
def variableTarget? (segments : List Segment) : Option Reference :=
  match segments.drop (countUps segments) with
  | .name name :: _ => some (.variable (countUps segments) name)
  | _ => none

/-- A reference. -/
def readReference : Reader Expr := fun cs =>
  let (root, rest) := readRoot (skipHere cs)
  let (isVariable, rest) := readFlag "@" rest
  let (ups, rest) := readUps cs.length rest
  match readItem rest with
  | none => none
  | some (item, rest) =>
    let (items, rest) := readItems cs.length rest
    let steps := ups ++ itemSegments item ++ items
    let spelling := String.ofList (cs.take (cs.length - rest.length))
    let target :=
      if isVariable && root.isEmpty then (variableTarget? steps).getD (.data [])
      else .data (root ++ steps)
    some (.reference spelling target, rest)

/-! ## Literals -/

/-- The characters of a string up to its closing quote, as they are spelled. -/
def readQuoted (quote : Char) : Reader (List Char)
  | [] => none
  | '\\' :: 'u' :: a :: b :: c :: d :: rest =>
    if (Json.unit? a b c d).isSome then
      (readQuoted quote rest).map fun (s, rest) => ('\\' :: 'u' :: a :: b :: c :: d :: s, rest)
    else none
  | '\\' :: c :: rest =>
    if c == quote || [ '\\', '/', 'b', 'f', 'n', 'r', 't'].contains c then
      (readQuoted quote rest).map fun (s, rest) => ('\\' :: c :: s, rest)
    else none
  | c :: rest =>
    if c == quote then some ([], rest)
    else if c == '\\' then none
    else (readQuoted quote rest).map fun (s, rest) => (c :: s, rest)

/-- A string literal, and its quote. -/
def readStringLiteral : Reader (Char × List Char)
  | '"' :: cs => (readQuoted '"' cs).map fun (s, rest) => (('"', s), rest)
  | '\'' :: cs => (readQuoted '\'' cs).map fun (s, rest) => (('\'', s), rest)
  | _ => none

/-- Digits. -/
def skipDigits (cs : List Char) : List Char := cs.dropWhile Char.isDigit

/-- The exponent of a number. -/
def skipExponent : List Char → List Char
  | 'E' :: cs =>
    match (readFlag "-" cs).2 with
    | d :: rest => if d.isDigit then skipDigits rest else 'E' :: cs
    | [] => 'E' :: cs
  | cs => cs

/-- A number, of which only the end is of interest. -/
def skipNumber (cs : List Char) : Option (List Char) :=
  match (readFlag "-" cs).2 with
  | d :: rest =>
    if d.isDigit then
      let rest := skipExponent (skipDigits (readFlag "." (skipDigits rest)).2)
      if startsSymbol rest then none else some rest
    else none
  | [] => none

/-- A number or a keyword, of which only the end is of interest. -/
def skipPlain (cs : List Char) : Option (List Char) :=
  match skipNumber cs with
  | some rest => some rest
  | none =>
    match readKeyword "null" cs, readKeyword "true" cs, readKeyword "false" cs with
    | some ((), rest), _, _ => some rest
    | none, some ((), rest), _ => some rest
    | none, none, some ((), rest) => some rest
    | none, none, none => none

mutual

/-- The text after a literal. -/
def skipLiteral : Nat → List Char → Option (List Char)
  | 0, _ => none
  | fuel + 1, cs =>
    match readStringLiteral cs with
    | some (_, rest) => some rest
    | none =>
      match cs with
      | '[' :: inside =>
        let inside := Json.skipGap inside
        let inside := (skipLiteral fuel inside).getD inside
        match Json.skipGap (skipItems fuel inside) with
        | ']' :: rest => some rest
        | _ => none
      | '\x7b' :: inside =>
        let inside := Json.skipGap inside
        let inside := (skipMember fuel inside).getD inside
        match Json.skipGap (skipMembers fuel inside) with
        | '\x7d' :: rest => some rest
        | _ => none
      | cs => skipPlain cs

/-- The text after further items. -/
def skipItems : Nat → List Char → List Char
  | 0, cs => cs
  | fuel + 1, cs =>
    match Json.skipGap cs with
    | ',' :: rest =>
      match skipLiteral fuel (Json.skipGap rest) with
      | some rest => skipItems fuel rest
      | none => cs
    | _ => cs

/-- The text after a member of an object. -/
def skipMember : Nat → List Char → Option (List Char)
  | 0, _ => none
  | fuel + 1, cs =>
    match readStringLiteral cs with
    | none => none
    | some (_, rest) =>
      match Json.skipGap rest with
      | ':' :: rest => skipLiteral fuel (Json.skipGap rest)
      | _ => none

/-- The text after further members. -/
def skipMembers : Nat → List Char → List Char
  | 0, cs => cs
  | fuel + 1, cs =>
    match Json.skipGap cs with
    | ',' :: rest =>
      match skipMember fuel (Json.skipGap rest) with
      | some rest => skipMembers fuel rest
      | none => cs
    | _ => cs

end

/-- The characters of a string in single quotes as they are spelled in double quotes. -/
def doubleQuoted : List Char → List Char
  | '\\' :: '\'' :: rest => '\'' :: doubleQuoted rest
  | '"' :: rest => '\\' :: '"' :: doubleQuoted rest
  | c :: rest => c :: doubleQuoted rest
  | [] => []

/-- What a literal says: its value, or nothing if it only looks like one. -/
def literalValue? (spelling : List Char) : Option Json :=
  match readStringLiteral spelling with
  | some (('\'', inside), _) => Json.parse? ('"' :: doubleQuoted inside ++ ['"'])
  | _ => Json.parse? spelling

/-! ## Calls -/

/-- What a reader of expressions finds: something, nothing, or a literal without a value. -/
inductive Outcome (α : Type) where
  | found (value : α) (rest : List Char)
  | absent
  | faulty
deriving Inhabited

/-- A literal as a parameter. -/
def readLiteral (cs : List Char) : Outcome Expr :=
  match skipLiteral (2 * cs.length + 2) cs with
  | none => .absent
  | some rest =>
    match literalValue? (cs.take (cs.length - rest.length)) with
    | some value => .found (.literal value) rest
    | none => .faulty

/-- Whether the word stands here, and nothing that begins like a name after it. -/
def endsCall (word : String) (cs : List Char) : Bool :=
  match readMark word cs with
  | some ((), rest) => !startsSymbol (Json.skipGap rest)
  | none => false

/-- Whether one of the words stands here that are no parameters. -/
def startsKeyword (cs : List Char) : Bool := endsCall "as" cs || endsCall "else" cs

mutual

/-- A call in parentheses. -/
def readNested : Nat → List Char → Outcome Expr
  | 0, _ => .absent
  | fuel + 1, cs =>
    match cs with
    | '(' :: inside =>
      let inside := Json.skipGap inside
      match readApplied fuel inside with
      | .faulty => .faulty
      | .found call rest =>
        match Json.skipGap rest with
        | ')' :: rest => .found (.call call.name call.params call.named) rest
        | _ => readNestedReference inside
      | .absent => readNestedReference inside
    | _ => .absent

/-- A name alone in parentheses. -/
def readNestedReference (inside : List Char) : Outcome Expr :=
  match readReference inside with
  | some (e, rest) =>
    match Json.skipGap rest with
    | ')' :: rest => .found (.call e [] []) rest
    | _ => .absent
  | none => .absent

/-- A parameter by position. -/
def readParam : Nat → List Char → Outcome Expr
  | 0, _ => .absent
  | fuel + 1, cs =>
    if startsKeyword cs then .absent
    else match readLiteral cs with
      | .faulty => .faulty
      | .found e rest => .found e rest
      | .absent =>
        match readReference cs with
        | some (e, rest) => .found e rest
        | none => readNested fuel cs

/-- A parameter by name. -/
def readNamedParam : Nat → List Char → Outcome (String × Expr)
  | 0, _ => .absent
  | fuel + 1, cs =>
    match readName isSymbol cs with
    | none => .absent
    | some (name, rest) =>
      match Json.skipGap rest with
      | '=' :: rest =>
        match readParam fuel (Json.skipGap rest) with
        | .found e rest => .found (String.ofList name, e) rest
        | .absent => .absent
        | .faulty => .faulty
      | _ => .absent

/-- All parameters from here on. -/
def readParams : Nat → List Char → Outcome (List Expr × List (String × Expr))
  | 0, cs => .found ([], []) cs
  | fuel + 1, cs =>
    let start := Json.skipGap cs
    match readNamedParam fuel start with
    | .faulty => .faulty
    | .found param rest =>
      match readParams fuel rest with
      | .found (params, named) rest => .found (params, param :: named) rest
      | outcome => outcome
    | .absent =>
      match readParam fuel start with
      | .faulty => .faulty
      | .found param rest =>
        match readParams fuel rest with
        | .found (params, named) rest => .found (param :: params, named) rest
        | outcome => outcome
      | .absent => .found ([], []) cs

/-- A helper's name with at least one parameter. -/
def readApplied : Nat → List Char → Outcome Call
  | 0, _ => .absent
  | fuel + 1, cs =>
    match readName isSymbol cs with
    | none => .absent
    | some (name, rest) =>
      match readParams fuel rest with
      | .found ([], []) _ => .absent
      | .found (params, named) rest => .found ⟨.word (String.ofList name), params, named⟩ rest
      | .absent => .absent
      | .faulty => .faulty

end

end Stencil.Template
