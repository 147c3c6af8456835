import PrimitiveDesk.Layout.Line
import PrimitiveDesk.Schema.Basic

/-!
# Finding a schema level

`Shape.navigate?` follows the keys that enclose the cursor, from the root of the document down, and
gives the level of the schema that the cursor is on.
-/

namespace PrimitiveDesk

/-- A level of a schema. -/
inductive Level where
  /-- The entries of the sequence field `key`. -/
  | sequence (key : String) (element : SchemaNode)
  /-- The fields of a mapping. -/
  | fields (shape : Shape)
deriving Inhabited, Repr

namespace Level

/-- The level inside a field; scalars have none. -/
def inside? (name : String) : SchemaNode → Option Level
  | .sequence _ element => some (.sequence name element)
  | .object _ shape => some (.fields shape)
  | .scalar _ _ => none

/-- The level one key further down. A sequence directly inside a sequence keeps the outer key. -/
def step? (level : Level) (key : String) : Option Level :=
  match level with
  | .fields shape => (Assoc.find? shape key).bind (inside? key)
  | .sequence outer element => if key = Layout.itemsKey then inside? outer element else none

/-- The level that keys lead to, outermost first. -/
def follow? (level : Level) : List String → Option Level
  | [] => some level
  | key :: rest => (level.step? key).bind (follow? · rest)

end Level

/-- The level that the given ancestors lead to, closest first. -/
def Shape.navigate? (root : Shape) (ancestors : List String) : Option Level :=
  (Level.fields root).follow? ancestors.reverse

end PrimitiveDesk
