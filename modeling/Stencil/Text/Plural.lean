import Stencil.Text.Inflection
import Stencil.Text.Words
/-!
# The plural of an identifier in its own spelling

An inflector sees the identifier in snake case only. Its answer is then laid along the identifier:
a character that both have, in whatever case, is taken from the identifier, an underscore of the
phrase is skipped, a mark of the identifier is kept, and where the stem changed (`mouse`, `mice`)
the phrase wins. What the phrase has left over goes to the end.
-/

namespace Stencil.Text

/-- Lays a phrase along the spelling it came from. -/
def align : List Char → List Char → List Char
  | [], phrase => phrase
  | _ :: _, [] => []
  | o :: os, p :: ps =>
    if lowerChar o = lowerChar p then o :: align os ps
    else if p = '_' then align (o :: os) ps
    else if !isAlphanumeric o then o :: align os (p :: ps)
    else p :: align os ps
termination_by os ps => os.length + ps.length

/-- The plural of an identifier by an inflector for phrases in snake case. -/
def pluralizeWith (inflector : String → String) (s : String) : String :=
  String.ofList (align s.toList (inflector (snakecase s)).toList)

/-- The English plural of an identifier, `WithAHugeMice` for `WithAHugeMouse`. -/
def pluralize (s : String) : String := pluralizeWith inflect s

end Stencil.Text
