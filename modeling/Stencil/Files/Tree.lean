import Stencil.Bytes.Basic
import Stencil.Files.Path
/-!
# Trees of files

The files and directories that a command can see. A place is given by the names on the way to it from
the root. The tree binds places to files and directories; the root is always a directory.

A path is followed from a current place. Each step needs the place that it starts from to be a
directory, as a file has nothing below or above it.
-/

namespace Stencil

/-- The names on the way from the root. -/
abbrev Place := List String

/-- What stands at a place. -/
inductive Entry where
  | file (contents : Bytes)
  | directory
deriving Repr, DecidableEq

/-- The entries of a file system, the latest for a place first. -/
structure FileTree where
  entries : List (Place × Entry) := []
deriving Repr

namespace FileTree

/-- What stands at the place. -/
def get? (tree : FileTree) (place : Place) : Option Entry :=
  if place.isEmpty then some .directory else tree.entries.lookup place

/-- The contents of the file at the place. -/
def file? (tree : FileTree) (place : Place) : Option Bytes :=
  match tree.get? place with
  | some (.file contents) => some contents
  | _ => none

/-- Whether a directory stands at the place. -/
def isDirectory (tree : FileTree) (place : Place) : Bool := tree.get? place == some .directory

/-- The tree with an entry at the place, instead of the one before. -/
def put (tree : FileTree) (place : Place) (entry : Entry) : FileTree :=
  ⟨(place, entry) :: tree.entries.filter (·.1 != place)⟩

/-- The tree with nothing at the place. -/
def erase (tree : FileTree) (place : Place) : FileTree := ⟨tree.entries.filter (·.1 != place)⟩

/-- Follows steps from a place. -/
def follow (tree : FileTree) (place : Place) : List Path.Step → Option Place
  | [] => some place
  | .root :: steps => follow tree [] steps
  | step :: steps =>
    if tree.isDirectory place then
      match step with
      | .up => follow tree place.dropLast steps
      | .down name => follow tree (place ++ [name]) steps
      | _ => follow tree place steps
    else none

/-- The place that a path leads to from `current`; nothing needs to stand there. -/
def resolve (tree : FileTree) (current : Place) (path : String) : Option Place :=
  if path.isEmpty then none
  else match tree.follow current (Path.steps path) with
    | some place => if Path.wantsDirectory path && !tree.isDirectory place then none else some place
    | none => none

/-- The contents of the file that a path leads to. -/
def read? (tree : FileTree) (current : Place) (path : String) : Option Bytes :=
  (tree.resolve current path).bind tree.file?

/-- The directories on the steps of a path, made where nothing stands, and where the steps lead. This ends at the
first place where no directory can be; those made before it stay. -/
def makeDirectories (tree : FileTree) (place : Place) : List Path.Step → Option Place × FileTree
  | [] => (some place, tree)
  | .root :: steps => makeDirectories tree [] steps
  | .here :: steps => makeDirectories tree place steps
  | .up :: steps => makeDirectories tree place.dropLast steps
  | .down name :: steps =>
    let below := place ++ [name]
    if Path.isShort name then
      match tree.get? below with
      | some .directory => makeDirectories tree below steps
      | some (.file _) => (none, tree)
      | none => makeDirectories (tree.put below .directory) below steps
    else (none, tree)

/-- The tree in which all places above the place are directories. -/
def withAncestors (tree : FileTree) (place : Place) : FileTree :=
  (List.range place.length).foldl (fun tree n =>
    let above := place.take n
    if (tree.get? above).isSome then tree else tree.put above .directory) tree

/-- The tree of files and directories, with the directories that they lie in. -/
def ofEntries (entries : List (Place × Entry)) : FileTree :=
  entries.foldl (fun tree (place, entry) => (tree.withAncestors place).put place entry) {}

/-- The order of places, name by name. -/
def precedes : Place → Place → Bool
  | [], _ => true
  | _ :: _, [] => false
  | m :: ms, n :: ns => if m == n then precedes ms ns else m < n

/-- The files of the tree in the order of their places. -/
def files (tree : FileTree) : List (Place × Bytes) :=
  (tree.entries.filterMap fun (place, entry) =>
    match entry with
    | .file contents => some (place, contents)
    | .directory => none).mergeSort fun a b => precedes a.1 b.1

/-- The files below a place in order, by the names from there on. -/
def filesBelow (tree : FileTree) (place : Place) : List (Place × Bytes) :=
  tree.files.filterMap fun (p, contents) =>
    match place.isPrefixOf? p with
    | some [] => none
    | some below => some (below, contents)
    | none => none

end FileTree

end Stencil
