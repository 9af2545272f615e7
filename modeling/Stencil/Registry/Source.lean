import Stencil.Output.File
import Stencil.Text.Case
/-!
# Template sources

A file that is part of a template set is a template if its name says so, and opaque otherwise. The text
of a template is kept as it is; the contents of an opaque file are kept armored. Which of the two a
file is depends on its name alone.
-/

namespace Stencil

/-- How the name of a template ends, in any letter case. -/
def templateSuffix : List Char := ".lt".toList

/-- The version of the template format. -/
def formatVersion : String := "1.0"

/-- Whether the name is that of a template. -/
def isTemplateFileName (fileName : String) : Bool :=
  templateSuffix.isSuffixOf (Text.lowerChars fileName.toList)

/-- What is kept of a file. -/
inductive SourceBody where
  | template (text : String)
  | opaqueFile (armored : String)
deriving Repr, DecidableEq

namespace SourceBody

/-- What is kept of a file with the name and the contents. -/
def ofFile (fileName : String) (contents : Bytes) : Except Error SourceBody :=
  if isTemplateFileName fileName then
    match contents.toText with
    | .ok text => .ok (.template text)
    | .error fault => .error (.parse fileName (.notUtf8 fault))
  else .ok (.opaqueFile (armor contents))

/-- The text that is kept. -/
def text : SourceBody → String
  | template s => s
  | opaqueFile s => s

/-- Whether the file is copied and not executed. -/
def isOpaque : SourceBody → Bool
  | template _ => false
  | opaqueFile _ => true

end SourceBody

/-- A registered file. -/
structure Source where
  fileName : String
  /-- The directory below the root of the template set; empty for the root itself. -/
  directory : String
  version : String
  body : SourceBody
  /-- The position of the renderer that the source is bound to. -/
  renderer : Nat
deriving Repr, DecidableEq

namespace Source

/-- The name by which renderers and other templates know the source. -/
def key (s : Source) : String :=
  if s.directory.isEmpty then s.fileName else s.directory ++ "/" ++ s.fileName

/-- A source from a file's name and contents. -/
def ofFile (fileName : String) (contents : Bytes) (version directory : String) (renderer : Nat) :
    Except Error Source :=
  if fileName.isEmpty then .error (.invalid .templateWithoutName)
  else if version.isEmpty then .error (.invalid (.templateWithoutVersion fileName))
  else (SourceBody.ofFile fileName contents).map fun body =>
    ⟨fileName, directory, version, body, renderer⟩

/-- Whether the source has the name and the directory. -/
def isAt (s : Source) (fileName directory : String) : Bool :=
  s.fileName == fileName && s.directory == directory

end Source

end Stencil
