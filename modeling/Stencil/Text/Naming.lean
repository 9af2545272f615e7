import Stencil.Text.Case
import Stencil.Text.Scan
/-!
# Names in generated code

What may stand in a name of the generated code, the paths of packages, and the small operations on
names that templates use.
-/

namespace Stencil.Text

/-- The characters of a name: ASCII letters, digits and the underscore. -/
def isNameChar (c : Char) : Bool := c.isAlphanum || c == '_'

/-- The string with only the characters of a name. -/
def cleanName (s : String) : String := String.ofList (s.toList.filter isNameChar)

/-- The package of a project that names none. -/
def defaultPackage : String := "com.example"

/-- The string with only the characters of a name and full stops; `defaultPackage` if nothing is
left. -/
def cleanPackageName (s : String) : String :=
  let kept := s.toList.filter fun c => isNameChar c || c == '.'
  if kept.isEmpty then defaultPackage else String.ofList kept

/-- `com.example.app` becomes `com/example/app`. -/
def packagePath (package : String) : String := replaceChar '.' '/' package

/-- Two texts in a row. -/
def concat (first second : String) : String := first ++ second

/-- A name with something in front of it. -/
def withPrefix (front name : String) : String := concat front name

/-- A name with something behind it. -/
def withSuffix (back name : String) : String := concat name back

/-- The first `length` characters; a shorter text stays as it is. -/
def truncate (length : Nat) (s : String) : String := String.ofList (s.toList.take length)

end Stencil.Text
