import Stencil.Files.Tree
import Stencil.Registry.Source
/-!
# The registry of sources

The sources of a generation, in the order of their registration. No two of them have both the same
name and the same directory. A source keeps its position, as sources are only ever appended.
-/

namespace Stencil

/-- The registered sources in order. -/
structure Registry where
  sources : List Source := []
deriving Repr, DecidableEq

namespace Registry

/-- The source with the name in the directory. -/
def source? (r : Registry) (fileName directory : String) : Option Source :=
  r.sources.find? (·.isAt fileName directory)

/-- The source with the name in the directory, which has to be there. -/
def sourceAt (r : Registry) (fileName directory : String) : Except Error Source :=
  match r.source? fileName directory with
  | some s => .ok s
  | none => .error (.notFound .template fileName)

/-- The positions of the sources with the name, in any directory. -/
def positions (r : Registry) (fileName : String) : List Nat :=
  (r.sources.zipIdx.filter fun (s, _) => s.fileName == fileName).map (·.2)

/-- The positions of the sources with the name, of which there has to be one. -/
def positionsOf (r : Registry) (fileName : String) : Except Error (List Nat) :=
  match r.positions fileName with
  | [] => .error (.notFound .template fileName)
  | found => .ok found

/-- The sources at the positions. -/
def select (r : Registry) (positions : List Nat) : List Source :=
  positions.filterMap fun i => r.sources[i]?

/-- The sources with the name, of which there has to be one. -/
def sourcesNamed (r : Registry) (fileName : String) : Except Error (List Source) :=
  (r.positionsOf fileName).map r.select

/-- Registers a file. -/
def add (r : Registry) (fileName : String) (contents : Bytes) (version directory : String)
    (renderer : Nat) : Except Error Registry :=
  match Source.ofFile fileName contents version directory renderer with
  | .error e => .error e
  | .ok s =>
    if (r.source? fileName directory).isSome then .error (.duplicate .template fileName)
    else .ok ⟨r.sources ++ [s]⟩

/-- Registers the file that a path leads to, at the root of the template set. -/
def addFile (r : Registry) (tree : FileTree) (current : Place) (path : String) (renderer : Nat) :
    Except Error Registry :=
  match Path.fileName? path with
  | none => .error (.invalid (.notAFile path))
  | some fileName =>
    match tree.read? current path with
    | none => .error (.unreadable path)
    | some contents => r.add fileName contents formatVersion "" renderer

/-! ## Directories -/

/-- The directories that hold no templates. -/
def skippedDirectories : List String := [".git", ".hg"]

/-- The files that are no templates. -/
def skippedFiles : List String := [".DS_Store"]

/-- A file of a template set. -/
structure FoundFile where
  fileName : String
  directory : String
  contents : Bytes
deriving Repr, DecidableEq

/-- The file at the names below the root of a template set, unless it is skipped. -/
def foundFile? : Place × Bytes → Option FoundFile
  | (below, contents) =>
    match below.getLast? with
    | none => none
    | some fileName =>
      if below.dropLast.any skippedDirectories.contains || skippedFiles.contains fileName then none
      else some ⟨fileName, "/".intercalate below.dropLast, contents⟩

/-- The directory part of the path of a file that is walked itself. -/
def ownDirectory (path : String) : String :=
  "/".intercalate <| (Path.steps ((Path.parent? path).getD path)).filterMap fun
    | .down name => some name
    | _ => none

/-- The files of the template set that a path leads to, in the order of their places; nothing if there
is nothing. A file is a set of its own. -/
def walk? (tree : FileTree) (current : Place) (path : String) : Option (List FoundFile) :=
  match tree.resolve current path with
  | none => none
  | some place =>
    match tree.get? place with
    | none => none
    | some .directory => some ((tree.filesBelow place).filterMap foundFile?)
    | some (.file contents) =>
      let fileName := (Path.fileName? path).getD path
      if skippedFiles.contains fileName then some []
      else some [⟨fileName, ownDirectory path, contents⟩]

/-- The sources of files, none of which may be registered already, neither before nor in `pending`. -/
def gather (r : Registry) (renderer : Nat) (pending : List Source) :
    List FoundFile → Except Error (List Source)
  | [] => .ok pending
  | f :: rest =>
    if (r.source? f.fileName f.directory).isSome || pending.any (·.isAt f.fileName f.directory) then
      .error (.duplicate .template f.fileName)
    else match Source.ofFile f.fileName f.contents formatVersion f.directory renderer with
      | .error e => .error e
      | .ok s => gather r renderer (pending ++ [s]) rest

/-- Registers every file of the template set that a path leads to. -/
def addDirectory (r : Registry) (tree : FileTree) (current : Place) (path : String)
    (renderer : Nat) : Except Error Registry :=
  match walk? tree current path with
  | none => .error .unwalkable
  | some files => (r.gather renderer [] files).map fun added => ⟨r.sources ++ added⟩

end Registry

end Stencil
