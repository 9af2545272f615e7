import Stencil.Error
/-!
# Why a command fails

What stops a command besides the failures of the generation itself: its configuration, the files that
it reads and writes, and what it is not told.
-/

namespace Stencil

/-- What a command has to be told. -/
inductive Need where
  | templates
  | output
deriving Repr, DecidableEq

/-- The need in words. -/
def Need.describe : Need → String
  | templates => "template directory"
  | output => "output directory"

/-- Why a command fails. -/
inductive Failure where
  /-- The configuration file is not one. -/
  | config (path : String)
  | inaccessible (path : String)
  /-- A generated file would lie outside of the output directory. -/
  | unsafePath (path : String)
  | missing (need : Need)
  | generation (error : Error)
deriving Repr, DecidableEq

/-- The failure in words. -/
def Failure.message : Failure → String
  | config path => s!"invalid config file `{path}`"
  | inaccessible path => s!"failed to access `{path}`"
  | unsafePath path => s!"generated path `{path}` escapes the output directory"
  | missing need =>
    s!"no {need.describe} given; pass it as a flag or set it in the config file"
  | generation error => error.message

end Stencil
