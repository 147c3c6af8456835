import PrimitiveDesk.Schema.Source

/-!
# Default entries

The default entry of a level holds every field with a written default, as it is written, and those
object fields below which some field has one. `Schemata.defaults` collects the default entries of
the three kinds of entries in a data file.
-/

namespace PrimitiveDesk

mutual

/-- The default entries of named fields. -/
def defaultEntry : Shape → Json.Members
  | [] => []
  | (name, node) :: rest =>
    match SchemaNode.default? node with
    | some value => (name, value) :: defaultEntry rest
    | none => defaultEntry rest

/-- The default of a field: the written one, or the default entry of an object if it is not
empty. -/
def SchemaNode.default? : SchemaNode → Option Json
  | .scalar info _ => info.sourceDefault?
  | .sequence info _ => info.sourceDefault?
  | .object info fields =>
    match info.sourceDefault? with
    | some value => some value
    | none =>
      match defaultEntry fields with
      | [] => none
      | members => some (.obj members)

end

/-- The field of a primitive that holds its definitions. -/
def definitionsKey : String := "definitions"

/-- The default entries of a generator's data files. -/
structure Defaults where
  extension : Json.Members
  /-- A primitive without its definitions. -/
  declaration : Json.Members
  /-- One of the definitions of a primitive. -/
  definition : Json.Members
deriving Inhabited

namespace Schemata

/-- The default entries, where extensions and declarations also name the namespace. -/
def defaults (s : Schemata) (namespaceKey namespaceName : String) : Defaults where
  extension := Assoc.set (defaultEntry s.extension) namespaceKey (.str namespaceName)
  declaration :=
    Assoc.set (defaultEntry (s.primitive.without definitionsKey)) namespaceKey (.str namespaceName)
  definition :=
    match ((Assoc.find? s.primitive definitionsKey).bind SchemaNode.element?).bind
        SchemaNode.shape? with
    | some shape => defaultEntry shape
    | none => []

end Schemata

end PrimitiveDesk
