import PrimitiveDesk.Proofs.Assoc.Firsts
import PrimitiveDesk.Schema.Basic

/-!
# Levels with distinct names

In a schema no name is given twice on a level. A name then leads to the one field that is called by
it (`Shape.find?_of_mem`), at every depth (`Shape.distinct_of_mem`).
-/

namespace PrimitiveDesk

namespace SchemaNode

mutual

/-- No level of the node has two fields of one name. -/
def distinct : SchemaNode → Bool
  | scalar _ _ => true
  | sequence _ element => distinct element
  | object _ fields => decide (Assoc.names fields).Nodup && fieldsDistinct fields

/-- No level of the fields has two fields of one name. -/
def fieldsDistinct : List (String × SchemaNode) → Bool
  | [] => true
  | (_, field) :: rest => distinct field && fieldsDistinct rest

end

/-- `fieldsDistinct` says the same of every field. -/
private theorem fieldsDistinct_iff {fields : List (String × SchemaNode)} :
    fieldsDistinct fields ↔ ∀ e ∈ fields, e.2.distinct := by
  induction fields with
  | nil => simp [fieldsDistinct]
  | cons e rest ih =>
    obtain ⟨name, field⟩ := e
    rw [fieldsDistinct, Bool.and_eq_true, ih, List.forall_mem_cons]

/-- The elements of a distinct sequence are distinct. -/
theorem distinct_of_element? {field element : SchemaNode} (h : field.distinct)
    (helement : field.element? = some element) : element.distinct := by
  cases field with
  | scalar info type => cases helement
  | object info fields => cases helement
  | sequence info element' =>
    cases helement
    rwa [distinct] at h

end SchemaNode

namespace Shape

/-- No level of the shape has two fields of one name. -/
def distinct (shape : Shape) : Bool :=
  decide (Assoc.names shape).Nodup && SchemaNode.fieldsDistinct shape

/-- The level of a distinct object is distinct. -/
theorem distinct_of_shape? {field : SchemaNode} {shape : Shape} (h : field.distinct)
    (hshape : field.shape? = some shape) : shape.distinct := by
  cases field with
  | scalar info type => cases hshape
  | sequence info element => cases hshape
  | object info fields =>
    cases hshape
    rwa [SchemaNode.distinct] at h

/-- A level is distinct if its names are and all of its fields are. -/
theorem distinct_iff {shape : Shape} :
    shape.distinct ↔ (Assoc.names shape).Nodup ∧ ∀ e ∈ shape, e.2.distinct := by
  rw [distinct, Bool.and_eq_true, decide_eq_true_iff, SchemaNode.fieldsDistinct_iff]

theorem distinct_of_mem {shape : Shape} (h : shape.distinct) {name : String} {field : SchemaNode}
    (hmem : (name, field) ∈ shape) : field.distinct :=
  (distinct_iff.mp h).2 (name, field) hmem

/-- A field of a distinct level is found under its name. -/
theorem find?_of_mem {shape : Shape} (h : shape.distinct) {name : String} {field : SchemaNode}
    (hmem : (name, field) ∈ shape) : Assoc.find? shape name = some field :=
  Assoc.find?_of_mem_of_nodup (distinct_iff.mp h).1 hmem

end Shape

end PrimitiveDesk
