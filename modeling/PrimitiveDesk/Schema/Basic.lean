import PrimitiveDesk.Json.Basic

/-!
# Schema trees

A schema tells which fields the levels of a data file have. A field holds a scalar, a sequence of
elements of one kind, or an object with fields of its own. Fields keep their order of declaration.

`SchemaNode.toJson` is the flat form of a schema, in which what a node leaves open is left out.
-/

namespace PrimitiveDesk

/-- The types of scalar fields. -/
inductive ScalarType where
  | string
  | integer
  | boolean
  | float
  /-- A field without a type, or with one of an unknown name. -/
  | any
deriving DecidableEq, Repr, Inhabited

namespace ScalarType

/-- The name of a type in the flat form. -/
def name : ScalarType → String
  | string => "string"
  | integer => "integer"
  | boolean => "boolean"
  | float => "float"
  | any => "any"

/-- The scalar type that a schema source calls by the given name. -/
def ofName? : String → Option ScalarType
  | "str" => some string
  | "string" => some string
  | "int" => some integer
  | "integer" => some integer
  | "bool" => some boolean
  | "boolean" => some boolean
  | "float" => some float
  | "double" => some float
  | _ => none

end ScalarType

/-- How often a field may appear. -/
structure Cardinality where
  /-- The least number of appearances. -/
  least : Nat
  /-- The largest number of appearances; zero if it is unspecified. -/
  largest : Nat
deriving DecidableEq, Repr, Inhabited

namespace Cardinality

/-- Exactly once. -/
def required : Cardinality := ⟨1, 1⟩

/-- At most once. -/
def optional : Cardinality := ⟨0, 1⟩

/-- Not a field of an object, such as the element of a sequence. -/
def unspecified : Cardinality := ⟨0, 0⟩

end Cardinality

/-- What all schema nodes have. -/
structure FieldInfo where
  cardinality : Cardinality
  /-- Users are asked to fill the field in. -/
  recommended : Bool
  comment? : Option String
  /-- The value that the field is compared with; empty for sequences and objects. -/
  default? : Option Json
  /-- The default as the schema source writes it. -/
  sourceDefault? : Option Json
  examples : List Json
deriving Inhabited, Repr

namespace FieldInfo

/-- Nothing but a cardinality. -/
def bare (c : Cardinality) : FieldInfo := ⟨c, false, none, none, none, []⟩

end FieldInfo

/-- A node of a schema. -/
inductive SchemaNode where
  | scalar (info : FieldInfo) (type : ScalarType)
  | sequence (info : FieldInfo) (element : SchemaNode)
  | object (info : FieldInfo) (fields : List (String × SchemaNode))
deriving Inhabited, Repr

/-- The named fields of an object level, in order of declaration. -/
abbrev Shape := List (String × SchemaNode)

namespace SchemaNode

/-- What all schema nodes have. -/
def info : SchemaNode → FieldInfo
  | scalar i _ => i
  | sequence i _ => i
  | object i _ => i

/-- Whether the field must be there. -/
def isRequired (n : SchemaNode) : Bool :=
  n.info.cardinality.least == 1

/-- Whether the field is optional and users are asked to fill it in. -/
def isRecommended (n : SchemaNode) : Bool :=
  !n.isRequired && n.info.recommended

/-- The fields of an object. -/
def shape? : SchemaNode → Option Shape
  | object _ fields => some fields
  | _ => none

/-- The element of a sequence. -/
def element? : SchemaNode → Option SchemaNode
  | sequence _ e => some e
  | _ => none

/-- The members of the flat form that follow the type. -/
def cardinalityMembers (i : FieldInfo) : Json.Members :=
  let bounds :=
    if i.cardinality = .unspecified then []
    else
      [("minValue", Json.int i.cardinality.least), ("maxValue", Json.int i.cardinality.largest)]
  bounds ++ if i.recommended then [("recommended", .bool true)] else []

/-- The last members of the flat form. -/
def infoMembers (i : FieldInfo) : Json.Members :=
  (match i.default? with | some d => [("default", d)] | none => []) ++
  (match i.comment? with | some c => [("comment", .str c)] | none => []) ++
  if i.examples.isEmpty then [] else [("examples", .arr i.examples)]

mutual

/-- The flat form of a node. -/
def toJson : SchemaNode → Json
  | scalar i t => .obj (("type", .str t.name) :: (cardinalityMembers i ++ infoMembers i))
  | sequence i e =>
    .obj (("type", .str "array") ::
      (cardinalityMembers i ++ ("items", toJson e) :: infoMembers i))
  | object i fields =>
    .obj (("type", .str "object") ::
      (cardinalityMembers i ++ ("items", .obj (fieldsToJson fields)) :: infoMembers i))

/-- The flat forms of named fields. -/
def fieldsToJson : List (String × SchemaNode) → Json.Members
  | [] => []
  | (n, f) :: rest => (n, toJson f) :: fieldsToJson rest

end

end SchemaNode

/-- The flat form of a level. -/
def Shape.toJson (s : Shape) : Json :=
  .obj (SchemaNode.fieldsToJson s)

/-- The schema of all data files of a generator. -/
structure Schemata where
  extension : Shape
  primitive : Shape
  /-- The first document of a primitive file. -/
  primitiveClass : Shape
deriving Inhabited

namespace Schemata

/-- The flat form of all levels. -/
def toJson (s : Schemata) : Json :=
  .obj [("extension", s.extension.toJson), ("primitive", s.primitive.toJson),
    ("primitive_class", s.primitiveClass.toJson)]

end Schemata

end PrimitiveDesk
