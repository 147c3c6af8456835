import PrimitiveDesk.Json.Printer
import PrimitiveDesk.Preview.Selection

/-!
# Layers of preview data

The data of a preview is an entry of a data file, completed by layers that lie below it: each layer
gives what those above it leave open (`Assoc.extend`).
-/

namespace PrimitiveDesk

/-- The members of an object; any other value counts as an empty object. -/
def objectOf (j : Json) : Json.Members :=
  j.members?.getD []

/-- The text of a value that names something. -/
def nameText : Json → String
  | .str s => s
  | .null => ""
  | j => j.compact

/-- A primitive without its definitions; its functor is named like the primitive unless it has a
name of its own. -/
def declarationData (d : Yaml.Document) : Json.Members :=
  let data := objectOf d.toJson
  let named :=
    if Assoc.has data "functor_name" then data
    else
      Assoc.set data "functor_name"
        (.str (((Assoc.find? data "primitive_name").map nameText).getD ""))
  Assoc.erase named definitionsKey

/-- A definition with its flags as one text. -/
def definitionData (definition : Yaml.Node) : Json.Members :=
  let flags := ((definition.get? "lscpu_flags").map (·.stringList)).getD []
  Assoc.set (objectOf definition.toJson) "lscpu_flags" (.str (String.intercalate ", " flags))

/-- The data of a definition for all its types: the definition, the defaults of definitions, the
extension, the defaults of extensions, and the declaration with its defaults. -/
def mergedData (defaults : Defaults) (definition extension declaration : Json.Members) :
    Json.Members :=
  let extensionLayers := Assoc.extend (Assoc.extend extension defaults.extension) declaration
  Assoc.extend (Assoc.extend definition defaults.definition) extensionLayers

/-- The data of a definition for one of its types, with its implementation rendered for that
type. -/
def variantData (merged : Json.Members) (type implementation : String) : Json.Members :=
  Assoc.set (Assoc.set merged "ctype" (.str type)) "implementation" (.str implementation)

end PrimitiveDesk
