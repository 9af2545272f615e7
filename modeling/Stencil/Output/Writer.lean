import Stencil.Failure
import Stencil.Files.Tree
import Stencil.Output.File
/-!
# Writing generated files

Generated files are written below an output root. First all their paths are checked: one that does not
stay below the root fails the whole batch, and nothing is written. Then the files are written in order,
each with the directories that it needs, up to the first that cannot be written; directories that were made for that
stay. A file is written to a temporary one beside it, which is renamed when it is complete, so a file is written whole
or not at all; and a later file takes the place of an earlier one with the same path.
-/

namespace Stencil

/-- The first file whose path does not stay below the root. -/
def firstEscaping? (files : List OutputFile) : Option OutputFile :=
  files.find? fun f => !Path.isContained f.path

/-- The name of a temporary file, which has been tried so many times. -/
def temporaryName (tries : Nat) : String := ".tmp" ++ String.ofList (List.replicate tries '-')

/-- A place in the directory where nothing stands. -/
def FileTree.temporary (tree : FileTree) (directory : Place) : Place :=
  let candidates := (List.range (tree.entries.length + 1)).map (directory ++ [temporaryName ·])
  (candidates.find? fun place => (tree.get? place).isNone).getD directory

/-- Renames the file at a place to the last name of a path, whose directory is known. Nothing can be put in
the place of a directory, or at a path that no file can have. -/
def FileTree.rename (tree : FileTree) (source directory : Place) (path : String) : Option FileTree :=
  match tree.file? source, Path.fileName? path with
  | some contents, some name =>
    let place := directory ++ [name]
    if !Path.isUsable path || Path.wantsDirectory path || tree.isDirectory place then none
    else some ((tree.erase source).put place (.file contents))
  | _, _ => none

/-- Writes a file by way of a temporary one, which takes its place when it is complete. If it cannot, it is
deleted. -/
def FileTree.putThrough (tree : FileTree) (temporary directory : Place) (path : String) (contents : Bytes) :
    Except Failure Unit × FileTree :=
  let started := tree.put temporary (.file [])
  let filled := started.put temporary (.file contents)
  match filled.rename temporary directory path with
  | some tree => (.ok (), tree)
  | none => (.error (.inaccessible path), filled.erase temporary)

/-- The directory that a path leads to, made with those on the way to it. -/
def FileTree.makeDirectory (tree : FileTree) (current : Place) (path : String) : Option Place × FileTree :=
  if Path.isAddressable path then tree.makeDirectories current (Path.steps path) else (none, tree)

/-- Writes one file below the root, and its path. -/
def writeFile (current : Place) (root : String) (tree : FileTree) (f : OutputFile) :
    Except Failure String × FileTree :=
  let path := Path.join root f.path
  let parent := (Path.parent? path).getD root
  match tree.makeDirectory current parent with
  | (none, tree) => (.error (.inaccessible parent), tree)
  | (some directory, tree) =>
    match f.decodedBody with
    | .error fault => (.error (.generation (.undecodable fault)), tree)
    | .ok contents =>
      let (outcome, tree) := tree.putThrough (tree.temporary directory) directory path contents
      (outcome.map fun _ => path, tree)

/-- Writes files one after another, up to the first failure. -/
def writeAll (current : Place) (root : String) (tree : FileTree) :
    List OutputFile → Except Failure (List String) × FileTree
  | [] => (.ok [], tree)
  | f :: rest =>
    match writeFile current root tree f with
    | (.error failure, tree) => (.error failure, tree)
    | (.ok path, tree) =>
      let (outcome, tree) := writeAll current root tree rest
      (outcome.map (path :: ·), tree)

/-- Writes generated files below a root, and their paths. -/
def writeFiles (current : Place) (root : String) (tree : FileTree) (files : List OutputFile) :
    Except Failure (List String) × FileTree :=
  match firstEscaping? files with
  | some f => (.error (.unsafePath f.path), tree)
  | none => writeAll current root tree files

end Stencil
