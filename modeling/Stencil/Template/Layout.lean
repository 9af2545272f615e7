import Stencil.Template.Tag
import Stencil.Text.Case
/-!
# Blanks around tags

Which blanks of a template are part of its text. A tag with `~` takes all blanks on that side. A tag
for blocks, comments, inclusions and decorators that stands alone on its line takes the line with it:
the blanks before it and the line end after it.

The tokens are laid out from left to right. What a tag takes after it is taken from the text that
follows; what it takes before it is taken from the last text, if nothing stands in between.
-/

namespace Stencil.Template

open Text (isBlank trimEnd)

/-- What the last tag takes from the text that follows. -/
structure Pending where
  /-- All blanks. -/
  blanks : Bool := false
  /-- Blanks up to the end of the line, and the line end. -/
  line : Bool := false
deriving Repr, DecidableEq

/-- A tag that is laid out, and whether what it writes begins a line that is indented. -/
structure LaidTag where
  placed : PlacedTag
  opensLine : Bool
deriving Repr, Inhabited

/-- A text or tag that is laid out. -/
inductive Item where
  | text (cs : List Char)
  | tag (laid : LaidTag)
deriving Repr, Inhabited

/-- The text without one line end at its beginning. -/
def dropLineEnd : List Char → List Char
  | '\r' :: '\n' :: cs => cs
  | '\n' :: cs => cs
  | cs => cs

/-- The text without what is taken from its beginning. -/
def Pending.takeFrom (p : Pending) (cs : List Char) : List Char :=
  if p.blanks then cs.dropWhile isBlank
  else if p.line then dropLineEnd (cs.dropWhile isLineBlank)
  else cs

/-- Whether the tag can stand alone on its line. -/
def Tag.ownsLine : Tag → Bool
  | .value _ => false
  | _ => true

/-- Whether the tag says how the text after it begins. -/
def Tag.isComment : Tag → Bool
  | .comment => true
  | _ => false

/-- The characters between tokens of which a text may consist without being one. -/
def isOnlyGap (cs : List Char) : Bool := cs.all Json.isGap

/-- The last text without what a tag takes from its end. -/
def takeBefore (placed : PlacedTag) : List Item → List Item
  | .text cs :: rest =>
    let cs := if placed.trimsBefore then trimEnd isBlank cs else cs
    let cs := if placed.tag.ownsLine && placed.alone then trimEnd isLineBlank cs else cs
    .text cs :: rest
  | items => items

/-- What the tag takes after it. -/
def Pending.after (p : Pending) (placed : PlacedTag) : Pending :=
  ⟨if placed.tag.isComment then p.blanks else placed.trimsAfter,
    if placed.tag.ownsLine then placed.alone else p.line⟩

/-- Whether what the tag writes begins a line: it stands alone on its line itself, or, for a value,
the line end of such a tag right before it is all that stands in between. -/
def Pending.opensLine (p : Pending) (placed : PlacedTag) : Bool :=
  (if placed.tag.ownsLine then placed.alone else p.line) && !placed.trimsBefore

/-- Lays out tokens after `done`, the last item first. -/
def layOut (pending : Pending) (done : List Item) : List Token → List Item
  | [] => done.reverse
  | .text cs :: tokens =>
    if pending.blanks && isOnlyGap cs then layOut pending done tokens
    else layOut { pending with line := false } (.text (pending.takeFrom cs) :: done) tokens
  | .tag placed :: tokens =>
    layOut (pending.after placed) (.tag ⟨placed, pending.opensLine placed⟩ :: takeBefore placed done)
      tokens

end Stencil.Template
