import Mathlib.Data.List.Infix
import PrimitiveDesk.Editor.Finding

/-!
# The levels that a check reaches

A check starts with the root of a document and its level. From a mapping it goes on to the value of
each object field that the mapping has, and to the entries of each sequence field with object
elements (`Below`). A route is a list of such steps (`Reaches`).

`Shape.induction` is induction over the levels of a schema. `ofLevel` finds what `ofField` does,
field by field (`ofLevel_eq_flatMap`), and the findings about a reached node stand together among
those about the root (`Reaches.isInfix`).
-/

namespace PrimitiveDesk

/-- The fields of an object, and those of the elements of a sequence, are smaller than the node. -/
private theorem SchemaNode.sizeOf_lt_of_nested {field : SchemaNode} {nested : Shape}
    (h : field.shape? = some nested ∨ field.element?.bind SchemaNode.shape? = some nested) :
    sizeOf nested < sizeOf field := by
  rcases h with h | h
  · cases field with
    | scalar info type => cases h
    | sequence info element => cases h
    | object info fields =>
      cases h
      simp only [SchemaNode.object.sizeOf_spec]
      omega
  · cases field with
    | scalar info type => cases h
    | object info fields => cases h
    | sequence info element =>
      cases element with
      | scalar info' type => cases h
      | sequence info' element => cases h
      | object info' fields =>
        cases h
        simp only [SchemaNode.sequence.sizeOf_spec, SchemaNode.object.sizeOf_spec]
        omega

/-- What holds of a level if it holds of all levels right below it, holds of every level. -/
theorem Shape.induction {motive : Shape → Prop}
    (level : ∀ shape : Shape,
      (∀ name field nested, (name, field) ∈ shape →
        field.shape? = some nested ∨ field.element?.bind SchemaNode.shape? = some nested →
          motive nested) → motive shape) (shape : Shape) : motive shape := by
  apply level
  intro name field nested hmem hnested
  -- a level that is nested in a field of a level is smaller than that level
  have hsize : sizeOf nested < sizeOf shape := by
    have hfield : sizeOf (name, field) < sizeOf shape := List.sizeOf_lt_of_mem hmem
    have hnested : sizeOf nested < sizeOf field := SchemaNode.sizeOf_lt_of_nested hnested
    simp only [Prod.mk.sizeOf_spec] at hfield
    omega
  exact Shape.induction level nested
termination_by sizeOf shape

namespace Finding

open Yaml

/-! ## Routes -/

/-- A step from a mapping to a node below it: over a field, and to an entry if the field is a
sequence. -/
structure Step where
  /-- The place of the field in its level. -/
  position : Nat
  name : String
  /-- The place of the entry in the sequence. -/
  item? : Option Nat
deriving DecidableEq, Repr

/-- The nodes in the value of a field that have a level of their own: the value of an object field,
and the items of a sequence whose elements are objects. -/
inductive Inside (field : SchemaNode) (value : Node) : Option Nat → Node → Shape → Prop
  | object {nested : Shape} (hshape : field.shape? = some nested) :
    Inside field value none value nested
  | entry {nested : Shape} {items : List Node} {j : Nat} {item : Node}
    (helement : field.element?.bind SchemaNode.shape? = some nested)
    (hitems : value.items? = some items) (hitem : items[j]? = some item) :
    Inside field value (some j) item nested

/-- One step down from a mapping and its level. Only a mapping has values. -/
inductive Below (n : Node) (level : Shape) : Step → Node → Shape → Prop
  | intro {i : Nat} {name : String} {field : SchemaNode} {value : Node} {item? : Option Nat}
    {m : Node} {nested : Shape} (hfield : level[i]? = some (name, field))
    (hvalue : n.get? name = some value) (hinside : Inside field value item? m nested) :
    Below n level ⟨i, name, item?⟩ m nested

/-- The nodes that are reached from a node with its level, and the levels that they must follow. -/
inductive Reaches : Node → Shape → List Step → Node → Shape → Prop
  | here (n : Node) (level : Shape) : Reaches n level [] n level
  | step {n m k : Node} {level nested inner : Shape} {s : Step} {route : List Step}
    (hstep : Below n level s m nested) (hroute : Reaches m nested route k inner) :
    Reaches n level (s :: route) k inner

/-! ## Findings by fields -/

/-- The findings of `ofLevel` about a mapping are those of `ofField`, in order of declaration. -/
theorem ofLevel_eq_flatMap {n : Node} (h : n.entries?.isSome) (level : Shape) :
    ofLevel n level = level.flatMap fun f => ofField n f.1 f.2 := by
  cases n with
  | scalar v s => cases h
  | sequence items s => cases h
  | mapping entries s =>
    induction level with
    | nil => simp [ofLevel]
    | cons f rest ih =>
      obtain ⟨name, field⟩ := f
      rw [ofLevel, ih, List.flatMap_cons]

/-- `ofLevel` finds nothing about a node that is no mapping. -/
theorem ofLevel_eq_nil {n : Node} (h : n.entries? = none) (level : Shape) :
    ofLevel n level = [] := by
  cases n with
  | mapping entries s => cases h
  | scalar v s =>
    induction level with
    | nil => simp [ofLevel]
    | cons f rest ih =>
      obtain ⟨name, field⟩ := f
      simp [ofLevel, ih]
  | sequence items s =>
    induction level with
    | nil => simp [ofLevel]
    | cons f rest ih =>
      obtain ⟨name, field⟩ := f
      simp [ofLevel, ih]

/-- `below` an object field are the findings about its value. -/
theorem below_of_shape? {field : SchemaNode} {nested : Shape} (h : field.shape? = some nested)
    (value : Node) : below value field = ofLevel value nested := by
  cases field with
  | object info fields => cases h; rw [below]
  | scalar info type => cases h
  | sequence info element => cases h

/-- `below` a sequence of objects are the findings about its items. -/
theorem below_of_items {field : SchemaNode} {nested : Shape}
    (h : field.element?.bind SchemaNode.shape? = some nested) {value : Node} {items : List Node}
    (hitems : value.items? = some items) :
    below value field = items.flatMap fun item => ofLevel item nested := by
  cases field with
  | scalar info type => cases h
  | object info fields => cases h
  | sequence info element =>
    cases element with
    | scalar info' type => cases h
    | sequence info' element => cases h
    | object info' fields =>
      cases h
      cases value with
      | sequence items' s => cases hitems; rw [below]
      | scalar v s => cases hitems
      | mapping entries s => cases hitems

/-- `below` is empty for a value that holds no node with a level of its own. -/
theorem below_eq_nil {field : SchemaNode} {value : Node}
    (h : ∀ item? m nested, ¬ Inside field value item? m nested) : below value field = [] := by
  cases field with
  | scalar info type => rw [below]
  | object info fields => exact absurd (.object rfl) (h none value fields)
  | sequence info element =>
    cases element with
    | scalar info' type => simp [below]
    | sequence info' element => simp [below]
    | object info' fields =>
      cases value with
      | scalar v s => simp [below]
      | mapping entries s => simp [below]
      | sequence items s =>
        cases items with
        | nil => simp [below]
        | cons item items => exact absurd (.entry rfl rfl rfl) (h (some 0) item fields)

/-! ## Reached nodes -/

/-- A node with a value for some key is a mapping. -/
theorem isSome_entries?_of_get? {n value : Node} {name : String} (h : n.get? name = some value) :
    n.entries?.isSome := by
  cases n with
  | mapping entries s => rfl
  | scalar v s => simp [Node.get?] at h
  | sequence items s => simp [Node.get?] at h

/-- One of the lists that are joined stands in the whole. -/
private theorem isInfix_flatMap {α β : Type} {f : α → List β} {xs : List α} {i : Nat} {x : α}
    (h : xs[i]? = some x) : f x <:+: xs.flatMap f :=
  List.infix_of_mem_flatten (List.mem_map_of_mem (List.mem_of_getElem? h))

/-- The findings about a node inside of a value stand together `below` it. -/
private theorem Inside.isInfix {field : SchemaNode} {value m : Node} {item? : Option Nat}
    {nested : Shape} (h : Inside field value item? m nested) :
    ofLevel m nested <:+: below value field := by
  cases h with
  | object hshape => rw [below_of_shape? hshape]
  | entry helement hitems hitem =>
    rw [below_of_items helement hitems]
    exact isInfix_flatMap (f := fun item => ofLevel item nested) hitem

/-- The findings about a node one step down stand together among those about the mapping. -/
private theorem Below.isInfix {n m : Node} {level nested : Shape} {step : Step}
    (h : Below n level step m nested) : ofLevel m nested <:+: ofLevel n level := by
  obtain ⟨hfield, hvalue, hinside⟩ := h
  rw [ofLevel_eq_flatMap (isSome_entries?_of_get? hvalue)]
  -- the field has a value, so its findings end with those below the value
  refine (hinside.isInfix.trans ?_).trans (isInfix_flatMap (f := fun f => ofField n f.1 f.2) hfield)
  rw [ofField, hvalue]
  exact (List.suffix_append _ _).isInfix

/-- The findings about a reached node stand together among those about the root. -/
theorem Reaches.isInfix {n m : Node} {level nested : Shape} {route : List Step}
    (h : Reaches n level route m nested) : ofLevel m nested <:+: ofLevel n level := by
  induction h with
  | here n level => exact List.infix_refl _
  | step hstep _ ih => exact ih.trans hstep.isInfix

end Finding

end PrimitiveDesk
