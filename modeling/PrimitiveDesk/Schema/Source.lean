import PrimitiveDesk.Schema.Basic
import PrimitiveDesk.Schema.Error
import PrimitiveDesk.Yaml.Builder

/-!
# Schema sources

A schema source is one YAML document that describes each level by `required` and `optional` sections
of field specs. A field spec is a mapping such as

```
lscpu_flags:
  type: list
  entry_type: str
  brief: "Flags the definition depends on."
  default: []
```

`Shape.ofSections` reads a level, `Schemata.ofSource` a whole source. Fields keep the order in which
they are written over both sections, and a field listed twice keeps its first place and its last
spec. The path in an error leads to the field at fault: one step for each field name, and `items`
for the element of a list.
-/

namespace PrimitiveDesk

namespace Cardinality

/-- The cardinality of the fields of a section. -/
def ofSection? : String → Option Cardinality
  | "required" => some .required
  | "optional" => some .optional
  | _ => none

end Cardinality

namespace SchemaNode

/-- Whether the members hold a section of fields. -/
def hasSections (members : Json.Members) : Bool :=
  Assoc.has members "required" || Assoc.has members "optional"

/-- Whether a value is a mapping with a section of fields. -/
def isLevel : Json → Bool
  | .obj members => hasSections members
  | _ => false

/-- What a field spec says about a node, given what an empty default of its kind is. -/
def infoOf (members : Json.Members) (c : Cardinality) (normal : Json → Json) : FieldInfo where
  cardinality := c
  recommended := match Assoc.find? members "recommended" with
    | some (.bool b) => b
    | some .null => false
    | some _ => true
    | none => false
  comment? := (Assoc.find? members "brief").map fun
    | .str s => s
    | other => other.compact
  default? := (Assoc.find? members "default").map normal
  sourceDefault? := Assoc.find? members "default"
  examples := match Assoc.find? members "example" with
    | some (.arr items) => items
    | some .null => []
    | some single => [single]
    | none => []

/-- The node of a field spec whose type is given by name alone. -/
def ofTypeName (name : String) (info : FieldInfo) : SchemaNode :=
  if name = "list" ∨ name = "array" then
    .sequence info (.scalar (.bare .unspecified) .any)
  else if name = "dict" ∨ name = "object" then .object info []
  else .scalar info ((ScalarType.ofName? name).getD .any)

mutual

/-- Adds the fields of the sections to a shape, in the order in which they are written. -/
def sections (path : String) : List (String × Json) → Shape → Except SchemaError Shape
  | [], shape => .ok shape
  | (name, fields) :: rest, shape =>
    match Cardinality.ofSection? name, fields with
    | none, _ => sections path rest shape
    | some c, .obj specs => do
      let shape ← specFields path c specs shape
      sections path rest shape
    | some _, .null => sections path rest shape
    | some _, _ => .error (.invalidField (path ++ "." ++ name) .fieldsExpected)
termination_by members => (sizeOf members, 0)

/-- Adds the fields of one section to a shape. -/
def specFields (path : String) (c : Cardinality) :
    List (String × Json) → Shape → Except SchemaError Shape
  | [], shape => .ok shape
  | (name, spec) :: rest, shape => do
    let node ← ofSpec (path ++ "." ++ name) c spec
    specFields path c rest (Assoc.set shape name node)
termination_by specs => (sizeOf specs, 0)

/-- The node of a field spec. -/
def ofSpec (path : String) (c : Cardinality) : Json → Except SchemaError SchemaNode
  | .null => .ok (.scalar (.bare c) .any)
  | .obj members =>
    match Assoc.find? members "type" with
    | some (.str name) =>
      if name = "list" ∨ name = "array" then do
        let element ← elementOf path members
        return .sequence (infoOf members c fun _ => .arr []) element
      else if name = "dict" ∨ name = "object" then do
        let fields ← objectOf path members
        return .object (infoOf members c fun _ => .obj []) fields
      else
        .ok (.scalar (infoOf members c id) ((ScalarType.ofName? name).getD .any))
    | some other => .error (.invalidField path (.typeNotString other))
    | none =>
      if hasSections members then do
        let fields ← sections path members []
        return .object (infoOf members c fun _ => .obj []) fields
      else .ok (.scalar (infoOf members c id) .any)
  | _ => .error (.invalidField path .mappingExpected)
termination_by spec => (sizeOf spec, 2)

/-- The fields of a dictionary: those of its entry type, or else its own. -/
def objectOf (path : String) (members : Json.Members) : Except SchemaError Shape :=
  match _h : Assoc.find? members "entry_type" with
  | some (.obj entry) =>
    if hasSections entry then sections path entry []
    else if hasSections members then sections path members []
    else .ok []
  | _ => if hasSections members then sections path members [] else .ok []
termination_by (sizeOf members, 1)
decreasing_by
  all_goals
    first
    | (have lt := Assoc.sizeOf_lt_of_find? _h
       simp only [Json.obj.sizeOf_spec] at lt
       decreasing_tactic)
    | decreasing_tactic

/-- The element of a list, by its entry type. -/
def elementOf (path : String) (members : Json.Members) : Except SchemaError SchemaNode :=
  match _h : Assoc.find? members "entry_type" with
  | none => .ok (.scalar (.bare .unspecified) .any)
  | some .null => .ok (.scalar (.bare .unspecified) .any)
  | some (.str name) => .ok (ofTypeName name (.bare .unspecified))
  | some entry =>
    if isLevel entry then do
      let fields ← ofLevel (path ++ ".items") entry
      return .object (.bare .unspecified) fields
    else ofSpec (path ++ ".items") .unspecified entry
termination_by (sizeOf members, 1)
decreasing_by
  all_goals (have lt := Assoc.sizeOf_lt_of_find? _h; decreasing_tactic)

/-- The fields of a level that is described by its sections. -/
def ofLevel (path : String) : Json → Except SchemaError Shape
  | .obj members => sections path members []
  | _ => .error (.invalidField path .sectionsExpected)
termination_by level => (sizeOf level, 0)

end

end SchemaNode

/-- The fields of a level that is described by its sections; `path` names the level in errors. -/
def Shape.ofSections (level : Json) (path : String) : Except SchemaError Shape :=
  SchemaNode.ofLevel path level

/-- The shape without a field. -/
def Shape.without (s : Shape) (name : String) : Shape :=
  Assoc.erase s name

namespace Schemata

/-- The levels that a source must describe. -/
def topLevel (document : Json) (key : String) : Except SchemaError Json :=
  match document.get? key with
  | some j => .ok j
  | none => .error (.missingKey key)

/-- The schema that a document describes. -/
def ofDocument (document : Json) : Except SchemaError Schemata := do
  let extension ← topLevel document "extension"
  let primitive ← topLevel document "primitive"
  let primitiveClass ← topLevel document "primitive_class"
  return {
    extension := ← Shape.ofSections extension "extension"
    primitive := ← Shape.ofSections primitive "primitive"
    primitiveClass := ← Shape.ofSections primitiveClass "primitive_class" }

/-- The schema of a source. -/
def ofSource (source : String) : Except SchemaError Schemata :=
  let stream := Yaml.Stream.ofText source
  match stream.problems.find? fun p => p.severity == .error with
  | some p => .error (.notYaml p.message)
  | none =>
    match stream.documents.filter fun d => d.root?.isSome with
    | [] => .error .empty
    | [d] => ofDocument d.toJson
    | ds => .error (.multipleDocuments ds.length)

end Schemata

end PrimitiveDesk
