import PrimitiveDesk.Project.Profile
import PrimitiveDesk.Schema.Defaults

/-!
# Default entries of a project

The default entries of a schema, with the namespace of the project's family of generators.
-/

namespace PrimitiveDesk

/-- The default entries for the data files of a family of generators. -/
def Schemata.defaultsFor (s : Schemata) (p : Profile) : Defaults :=
  s.defaults p.namespaceKey p.namespaceName

end PrimitiveDesk
