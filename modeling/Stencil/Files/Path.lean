import Stencil.Text.Scan
/-!
# Paths as text

A path is a text of names with `/` between them; it is absolute if it begins with `/`. Empty names and
names `.` after the beginning have no meaning, but they stay in the text: joining and taking the
parent work on the text and keep it as it was spelled.

Not every text can be the path of a file: names and paths have a greatest length.
-/

namespace Stencil.Path

/-- One step of a path. -/
inductive Step where
  /-- To the root. -/
  | root
  /-- To where it stands; only at the beginning of a path. -/
  | here
  /-- To the directory above. -/
  | up
  | down (name : String)
deriving Repr, DecidableEq

/-- Whether the path begins at the root. -/
def isAbsolute (path : String) : Bool := path.toList.head? == some '/'

/-- The names between the slashes, without what stands for the root. -/
def names (path : String) : List String :=
  let cs := path.toList
  let cs := if isAbsolute path then cs.drop 1 else cs
  (cs.splitOnP (· == '/')).map String.ofList

/-- The step of a name after the beginning. -/
def step? (name : String) : Option Step :=
  if name == "" || name == "." then none
  else if name == ".." then some .up
  else some (.down name)

/-- The steps of the path. -/
def steps (path : String) : List Step :=
  let names := names path
  if isAbsolute path then .root :: names.filterMap step?
  else match names with
    | "." :: rest => .here :: rest.filterMap step?
    | names => names.filterMap step?

/-- The second path as seen from the first. -/
def join (path next : String) : String :=
  if isAbsolute next then next
  else if path.isEmpty || path.toList.getLast? == some '/' then path ++ next
  else path ++ "/" ++ next

/-- Whether the name at the given position makes a step. -/
def isStep (absolute first : Bool) (name : String) : Bool :=
  (step? name).isSome || (first && !absolute && name == ".")

/-- The names without those at the end that make no step. -/
def trimNames (absolute : Bool) (names : List String) : List String :=
  match names.reverse.dropWhile (fun name => (step? name).isNone) with
  | [] =>
    match names with
    | first :: _ => if isStep absolute true first then [first] else []
    | [] => []
  | kept => kept.reverse

/-- The text of names. -/
def ofNames (absolute : Bool) (names : List String) : String :=
  (if absolute then "/" else "") ++ String.intercalate "/" names

/-- The directory that the path lies in; the root and the empty path lie in none. -/
def parent? (path : String) : Option String :=
  let absolute := isAbsolute path
  match trimNames absolute (names path) with
  | [] => none
  | kept => some (ofNames absolute (trimNames absolute kept.dropLast))

/-- The name of the file that the path leads to. -/
def fileName? (path : String) : Option String :=
  match (steps path).getLast? with
  | some (.down name) => some name
  | _ => none

/-- Whether the spelling of the path demands a directory. -/
def wantsDirectory (path : String) : Bool :=
  match (names path).getLast? with
  | some name => name == "" || name == "."
  | none => false

/-- How many octets a name may have. -/
def maxName : Nat := 255

/-- How many octets a path may have. -/
def maxLength : Nat := 4095

/-- Whether the path is looked up at all: it is short enough as a whole, and no character is NUL. -/
@[irreducible]
def isAddressable (path : String) : Bool := path.utf8ByteSize ≤ maxLength && !path.toList.contains '\x00'

/-- Whether a name is short enough. -/
@[irreducible]
def isShort (name : String) : Bool := name.utf8ByteSize ≤ maxName

/-- Whether a file can have the path: it is looked up, and its names are short enough. -/
@[irreducible]
def isUsable (path : String) : Bool := isAddressable path && (names path).all isShort

/-- Whether the path stays below where it starts: it is made of names only, and of `.` at its
beginning. -/
def isContained (path : String) : Bool :=
  (steps path).all fun
    | .down _ => true
    | .here => true
    | .root => false
    | .up => false

end Stencil.Path
