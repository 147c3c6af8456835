import PrimitiveDesk.Files.Path

/-!
# Generator profiles

Two families of generators share the layout of projects and data files. They differ in a handful of
names, which a profile holds.
-/

namespace PrimitiveDesk

/-- A family of generators. -/
inductive Profile where
  | tsl
  | tvl
deriving DecidableEq, Repr, Inhabited

namespace Profile

/-- All profiles in the order in which they are tried. -/
def all : List Profile := [tsl, tvl]

/-- The short name of a family. -/
def name : Profile → String
  | tsl => "tsl"
  | tvl => "tvl"

/-- The key under which defaults name the namespace. -/
def namespaceKey (p : Profile) : String := p.name ++ "_namespace"

/-- The namespace of generated code. -/
def namespaceName (p : Profile) : String := p.name

/-- The folder below a project's root that holds its data files. -/
def dataFolderName : String := "primitive_data"

/-- The folder of primitive files. -/
def primitivesFolderName : String := "primitives"

/-- The folder of extension files. -/
def extensionsFolderName : String := "extensions"

/-- The folder below a project's root that holds its schema and templates. -/
def configFolder (root : Path) : Path := root.joinText "generator/config/generator"

/-- The schema source of a project. -/
def schemaFile (p : Profile) (root : Path) : Path :=
  (configFolder root).joinText (p.name ++ "_generator_schema.yaml")

/-- The templates of a project. -/
def templateFolder (p : Profile) (root : Path) : Path :=
  (configFolder root).joinText (p.name ++ "_templates")

/-- The name of a preview template. -/
def templateName (_ : Profile) (template : String) : String := "core/" ++ template

/-- The file that a template name stands for, below the template folder. -/
def templateSuffix : String := ".template"

/-- The script that starts the generator, below a project's root. -/
def entryScript (_ : Profile) : String := "main.py"

/-- The folder for builds, below a project's root. -/
def buildFolderName (_ : Profile) : String := ".tslgenEdit-temp"

end Profile

/-- The places of a project. -/
structure ProjectPlaces where
  profile : Profile
  root : Path
deriving DecidableEq, Repr, Inhabited

namespace ProjectPlaces

/-- The folder of all data files. -/
def dataFolder (p : ProjectPlaces) : Path := p.root.joinText Profile.dataFolderName

/-- The folder of primitive files. -/
def primitivesFolder (p : ProjectPlaces) : Path :=
  p.dataFolder.joinText Profile.primitivesFolderName

/-- The folder of extension files. -/
def extensionsFolder (p : ProjectPlaces) : Path :=
  p.dataFolder.joinText Profile.extensionsFolderName

/-- The schema source. -/
def schemaFile (p : ProjectPlaces) : Path := p.profile.schemaFile p.root

/-- The folder of templates. -/
def templateFolder (p : ProjectPlaces) : Path := p.profile.templateFolder p.root

end ProjectPlaces

end PrimitiveDesk
