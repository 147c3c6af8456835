import PrimitiveDesk.Files.Tree
import PrimitiveDesk.Project.Defaults

/-!
# Projects

A generator project is a folder with a schema source and data files. `ProjectPlaces.discover?` finds
the project of a data file by the folders above it; `ProjectPlaces.readSchema` loads its schema.
-/

namespace PrimitiveDesk

namespace ProjectPlaces

/-- Whether a folder holds data files of one kind, by its name. -/
def isKindFolder (folder : Path) : Bool :=
  match folder.name? with
  | some n => n == Profile.primitivesFolderName || n == Profile.extensionsFolderName
  | none => false

/-- The root of the project that a data file belongs to by its place: the file must be below a
folder for its kind, in the data folder of the root. The nearest folder with a reserved name
decides. -/
def rootOf? (file : Path) : Option Path :=
  match file.folders.find? isKindFolder with
  | none => none
  | some kindFolder =>
    match kindFolder.parent? with
    | none => none
    | some dataFolder =>
      if dataFolder.name? = some Profile.dataFolderName then dataFolder.parent? else none

/-- The project that a data file belongs to: its root must hold the schema source of a profile, and
the first such profile counts. `isFile` tells which files there are. -/
def discover? (isFile : Path → Bool) (file : Path) : Option ProjectPlaces :=
  match rootOf? file with
  | none => none
  | some root =>
    (Profile.all.find? fun p => isFile (p.schemaFile root)).map fun p => ⟨p, root⟩

end ProjectPlaces

/-- Why a project cannot be loaded. -/
inductive ProjectError where
  | unreadable (path : Path) (error : SystemError)
  | invalidSchema (path : Path) (error : SchemaError)
  | notLoaded (root : Path)
deriving Inhabited, Repr

namespace ProjectError

/-- The wording of an error. -/
def message : ProjectError → String
  | unreadable path e => "failed to read " ++ path.text ++ ": " ++ e.message
  | invalidSchema path e => "invalid schema " ++ path.text ++ ": " ++ e.message
  | notLoaded root => root.text ++ " is not an initialized generator project"

end ProjectError

/-- The schema of a project with its default entries. -/
structure ProjectSchema where
  schemata : Schemata
  defaults : Defaults
deriving Inhabited

namespace ProjectSchema

/-- The schema with the default entries that follow from it. -/
def ofSchemata (p : Profile) (s : Schemata) : ProjectSchema :=
  ⟨s, s.defaultsFor p⟩

/-- The schema that a source text gives. -/
def ofSource (places : ProjectPlaces) (source : String) : Except ProjectError ProjectSchema :=
  match Schemata.ofSource source with
  | .ok s => .ok (ofSchemata places.profile s)
  | .error e => .error (.invalidSchema places.schemaFile e)

end ProjectSchema

/-- Reads the schema source of a project; `read` gives the text of a file. -/
def ProjectPlaces.readSchema (places : ProjectPlaces)
    (read : Path → Except SystemError String) : Except ProjectError ProjectSchema :=
  match read places.schemaFile with
  | .ok source => ProjectSchema.ofSource places source
  | .error e => .error (.unreadable places.schemaFile e)

/-- A project with the schema that it has at present. -/
structure Project where
  places : ProjectPlaces
  schema : ProjectSchema
deriving Inhabited

end PrimitiveDesk
