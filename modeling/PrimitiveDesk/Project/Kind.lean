import PrimitiveDesk.Project.Profile
import PrimitiveDesk.Yaml.Document

/-!
# Kinds of data files

A data file describes primitives or an extension. Its place tells which, by the nearest folder with
a reserved name; so does its content, by the first document that names one of the two.
-/

namespace PrimitiveDesk

/-- What a data file describes. -/
inductive DataFileKind where
  | primitive
  | extension
  | unknown
deriving DecidableEq, Repr, Inhabited

namespace DataFileKind

/-- The name of a kind. -/
def name : DataFileKind → String
  | primitive => "primitive"
  | extension => "extension"
  | unknown => "unknown"

/-- The kind of the files in a folder of the given name. -/
def ofFolderName? (folder : String) : Option DataFileKind :=
  if folder = Profile.primitivesFolderName then some primitive
  else if folder = Profile.extensionsFolderName then some extension
  else none

/-- The kind that a file's place tells. -/
def ofLocation (file : Path) : DataFileKind :=
  (file.folders.findSome? fun f => f.name?.bind ofFolderName?).getD unknown

/-- The kind of a document that names a primitive or an extension. -/
def ofDocument? (d : Yaml.Document) : Option DataFileKind :=
  if d.has "primitive_name" then some primitive
  else if d.has "extension_name" then some extension
  else none

/-- The kind that a file's content tells. -/
def ofContent (s : Yaml.Stream) : DataFileKind :=
  (s.documents.findSome? ofDocument?).getD unknown

/-- The kind of a file by its place, or else by its content. -/
def ofFile (file : Path) (s : Yaml.Stream) : DataFileKind :=
  match ofLocation file with
  | unknown => ofContent s
  | kind => kind

end DataFileKind

end PrimitiveDesk
