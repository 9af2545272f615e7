import Stencil.Command.Generation
/-!
# The command line

Takes a picture of the files that a command can look at, executes the command on it, and writes what
has become different. Everything that is decided is decided by `Command.execute`.
-/

namespace Stencil.Command

/-- The path of a place. -/
def pathOf (place : Place) : String := "/" ++ "/".intercalate place

/-- The place after a step. -/
def stepFrom (place : Place) : Path.Step → Place
  | .root => []
  | .here => place
  | .up => place.dropLast
  | .down name => place ++ [name]

/-- The place that a path spells from `current`. -/
def placeFrom (current : Place) (path : String) : Place :=
  (Path.steps path).foldl stepFrom current

/-- What stands at a place. -/
def look (place : Place) : IO (Option Entry) := do
  let path := (← IO.currentDir) / pathOf place
  if ← path.isDir then return some .directory
  if ← path.pathExists then return some (.file (← IO.FS.readBinFile path).toList)
  return none

/-- The names of what stands below a directory. -/
def namesIn (place : Place) : IO (List String) := do
  return (← ((← IO.currentDir) / pathOf place).readDir).toList.map (·.fileName)

/-- The tree with what stands at a place. -/
def picture (tree : FileTree) (place : Place) : IO FileTree := do
  match ← look place with
  | some entry => return tree.put place entry
  | none => return tree

/-- The tree with everything at a place and below it. -/
partial def pictureBelow (tree : FileTree) (place : Place) : IO FileTree := do
  let tree ← picture tree place
  if tree.isDirectory place then
    (← namesIn place).foldlM (fun tree name => pictureBelow tree (place ++ [name])) tree
  else return tree

/-- The tree with the places on the way that a path leads from `place`. -/
def pictureWay (tree : FileTree) (place : Place) : List Path.Step → IO FileTree
  | [] => picture tree place
  | step :: steps => do pictureWay (← picture tree place) (stepFrom place step) steps

/-- The tree with the places on the ways that paths lead from `current`. -/
def pictureWays (tree : FileTree) (current : Place) (paths : List String) : IO FileTree :=
  paths.foldlM (fun tree path => pictureWay tree current (Path.steps path)) tree

/-- The files that a command can look at. -/
def pictureFor (current : Place) (o : Options) : IO FileTree := do
  let tree := FileTree.ofEntries [(current, .directory)]
  let tree ← pictureWays tree current o.config.toList
  match o.projectFile tree current with
  | .error _ => return tree
  | .ok file =>
    let settings := o.settings file
    let tree ← pictureWays tree current (settings.schema.toList ++ settings.templates.toList)
    let tree ← match settings.templates with
      | some path => pictureBelow tree (placeFrom current path)
      | none => pure tree
    match settings.output, generate tree current settings with
    | some root, .ok files =>
      pictureWays tree current (root :: files.map fun f => Path.join root f.path)
    | _, _ => return tree

/-- Writes a file whole or not at all. -/
def writeWhole (place : Place) (contents : Bytes) : IO Unit := do
  let unfinished := pathOf (place.dropLast ++ ["." ++ place.getLast?.getD "" ++ ".unfinished"])
  IO.FS.writeBinFile unfinished ⟨contents.toArray⟩
  IO.FS.rename unfinished (pathOf place)

/-- Writes what is different from before. -/
def writeChanges (before after : FileTree) : IO Unit :=
  after.entries.reverse.forM fun (place, entry) => do
    if before.get? place != some entry then
      match entry with
      | .directory => IO.FS.createDirAll (pathOf place)
      | .file contents => writeWhole place contents

/-- The current directory. -/
def currentPlace : IO Place := do return placeFrom [] (← IO.currentDir).toString

/-- Executes the command with its arguments. -/
def start (arguments : List String) : IO UInt32 := do
  let current ← currentPlace
  let before ← match Task.ofArguments arguments with
    | .ok (.generate o) => pictureFor current o
    | _ => pure {}
  let (outcome, after) := execute before current arguments
  writeChanges before after
  match outcome with
  | .printed text => IO.print text
  | .failed failure => IO.eprintln ("Error: " ++ failure.message)
  | .misused fault => IO.eprintln ("error: " ++ fault.message)
  return outcome.exitCode.toUInt32

end Stencil.Command

/-- Executes the command with its arguments. -/
def main (arguments : List String) : IO UInt32 := Stencil.Command.start arguments
