import Stencil.Renderer.Basic
/-!
# The echo renderer

A renderer that accepts every source and answers with what it was given: one file that holds the
package and the number of models. It shows what a run hands to its renderers.
-/

namespace Stencil

/-- An echo renderer with its name. -/
structure EchoRenderer where
  name : String
deriving Repr, DecidableEq

/-- The text for a source: a block with the source's name, the package and the number of models. -/
def EchoRenderer.text (source : Source) (context : Context) : String :=
  s!"<<levo filename:{source.fileName}.out>>{context.packageName} {context.models.length}<<levo>>"

instance : Renderer EchoRenderer where
  name r := r.name
  reset r := r
  parse _ r := (.ok (), r)
  render source context r := (.ok (EchoRenderer.text source context), r)

end Stencil
