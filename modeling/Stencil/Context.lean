import Stencil.Schema.Document
import Stencil.Text.Naming
/-!
# What templates are executed on

The names of the project and of its package, the models of a mapping, and the feature flags. Before a
template sees them, the names that become identifiers of generated code lose every character that
cannot stand in one. Sanitizing does not look whether names stay different.
-/

namespace Stencil

/-- The data of one execution. -/
structure Context where
  packageName : String
  projectName : String
  /-- The package as a path. -/
  packagePath : String
  models : List Model
  features : Table Bool
deriving Repr, DecidableEq

namespace Context

/-- The context of a project. -/
def ofProject (projectName packageName : String) (models : List Model) (features : Table Bool) :
    Context :=
  ⟨packageName, projectName, Text.packagePath packageName, models, features⟩

end Context

/-- The property with a local identifier that can stand in generated code. -/
def Property.sanitized (p : Property) : Property :=
  { p with localName := Text.cleanName p.localName }

/-- The model with names that can stand in generated code. -/
def Model.sanitized (m : Model) : Model :=
  ⟨Text.cleanName m.name, m.parent.map Text.cleanName, m.properties.map Property.sanitized⟩

namespace Context

/-- The context with names that can stand in generated code. -/
def sanitized (c : Context) : Context :=
  let packageName := Text.cleanPackageName c.packageName
  { c with
    packageName
    packagePath := Text.packagePath packageName
    projectName := Text.cleanName c.projectName
    models := c.models.map Model.sanitized }

/-- The context as data of templates. -/
def toJson (c : Context) : Json :=
  .ofEntries [("PackageName", .text c.packageName), ("ProjectName", .text c.projectName),
    ("PackagePath", .text c.packagePath), ("Models", .array (c.models.map Model.toJson)),
    ("Features", .object (c.features.map .bool))]

end Context

end Stencil
