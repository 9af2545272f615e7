import Stencil.Error
import Stencil.Files.Path
/-!
# Generated files

A generated file has a name, a directory below the output root and a body. A body that begins with the
armor mark stands for the octets whose base64 form follows the mark; any other body stands for itself.
So opaque files pass through the stages that know text only.
-/

namespace Stencil

/-- The mark of an armored body. -/
def armorMark : String := "<<levobase64>>"

/-- Octets as text that survives every stage: the mark and their base64 form. -/
def armor (octets : Bytes) : String := armorMark ++ String.ofList (Bytes.Base64.encode octets)

/-- A file to be written. -/
structure OutputFile where
  fileName : String
  /-- The directory below the output root; empty for the root itself. -/
  directory : String
  body : Bytes
deriving Repr, DecidableEq

/-- The path of a file in a directory, which may be empty. -/
def relativePath (fileName directory : String) : String :=
  if directory.isEmpty then fileName else Path.join directory fileName

namespace OutputFile

/-- The path below the output root. -/
def path (f : OutputFile) : String := relativePath f.fileName f.directory

/-- The octets to write. -/
def decodedBody (f : OutputFile) : Except Bytes.Base64.Fault Bytes :=
  match (Bytes.ofText armorMark).isPrefixOf? f.body with
  | some encoded => Bytes.Base64.decode encoded
  | none => .ok f.body

end OutputFile

end Stencil
