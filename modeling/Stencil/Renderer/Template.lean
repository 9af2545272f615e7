import Stencil.Renderer.Basic
import Stencil.Template.Execution
/-!
# The template renderer

Sources are compiled when they are parsed and kept under their keys, by which templates also include
one another. A template is executed on the sanitized context. The custom types that templates declare
last until the renderer is reset; compiled templates last for ever.
-/

namespace Stencil

/-- The compiled templates by their keys, and the custom types. -/
structure TemplateRenderer where
  compiled : Table (List Template.Element) := Table.empty
  types : CustomTypes := Table.empty

namespace TemplateRenderer

/-- Whether a template is compiled under the key. -/
def hasTemplate (r : TemplateRenderer) (key : String) : Bool := r.compiled.contains key

/-- Compiles a source that is a template of the right version. -/
def parse (source : Source) (r : TemplateRenderer) : Except Error Unit × TemplateRenderer :=
  if source.version != formatVersion then
    (.error (.parse source.key (.version formatVersion source.version)), r)
  else match source.body with
    | .opaqueFile _ => (.ok (), r)
    | .template text =>
      match Template.compile? text with
      | some elements => (.ok (), { r with compiled := r.compiled.insert source.key elements })
      | none => (.error (.parse source.key .malformed), r)

/-- Executes the template that is compiled under the key of the source. -/
def render (source : Source) (context : Context) (r : TemplateRenderer) :
    Except Error String × TemplateRenderer :=
  match r.compiled.get? source.key with
  | none => (.error (.render source.key .notParsed), r)
  | some elements =>
    let env : Template.Env := ⟨r.compiled, context.sanitized.toJson⟩
    match env.run source.key elements r.types with
    | (.ok text, types) => (.ok text, { r with types })
    | (.error fault, types) => (.error (.render source.key (.stopped fault)), { r with types })

end TemplateRenderer

instance : Renderer TemplateRenderer where
  name _ := "handlebars"
  reset r := { r with types := r.types.clear }
  parse := TemplateRenderer.parse
  render := TemplateRenderer.render

end Stencil
