import Mathlib.Logic.Relation
import PrimitiveDesk.Proofs.Assoc.Firsts
import PrimitiveDesk.Proofs.Editor.ReachedLevels
import PrimitiveDesk.Schema.Defaults

/-!
# Which fields have defaults

The default entry of a level is computed from the inside out: an object without a written default is
left out if the default entry of its own level is empty (`SchemaNode.default?_eq_some_iff`). Seen
from outside, a field is in the default entry exactly if a default is written for it or, through
objects only, somewhere below it (`SchemaNode.Defaulted`, `SchemaNode.isSome_default?_iff`). A
default that is written for an object is taken as it is, whatever is written below.
-/

namespace PrimitiveDesk

open Relation

namespace SchemaNode

/-- A default is written for the field. -/
def Written (field : SchemaNode) : Prop :=
  field.info.sourceDefault?.isSome

/-- An object and one of its fields. -/
def HasField (object field : SchemaNode) : Prop :=
  ∃ fields name, object.shape? = some fields ∧ (name, field) ∈ fields

/-- A default is written for the field, or for one below it that is reached through objects only. -/
def Defaulted (field : SchemaNode) : Prop :=
  field.Written ∨ ∃ inner, TransGen HasField field inner ∧ inner.Written

/-- Without a written default, one of the fields has to bring it in. -/
private theorem defaulted_iff {field : SchemaNode} :
    field.Defaulted ↔ field.Written ∨ ∃ inner, HasField field inner ∧ inner.Defaulted := by
  refine or_congr_right ⟨?_, ?_⟩
  · rintro ⟨last, hpath, hwritten⟩
    -- the path from the field starts with one of its own fields
    obtain ⟨inner, hfield, hrest⟩ := TransGen.head'_iff.mp hpath
    refine ⟨inner, hfield, ?_⟩
    rcases reflTransGen_iff_eq_or_transGen.mp hrest with rfl | hrest
    · exact Or.inl hwritten
    · exact Or.inr ⟨last, hrest, hwritten⟩
  · rintro ⟨inner, hfield, hwritten | ⟨last, hrest, hwritten⟩⟩
    · exact ⟨inner, .single hfield, hwritten⟩
    · exact ⟨last, .head hfield hrest, hwritten⟩

/-- `default?` gives the default that is written for a field, and otherwise the default entry of its
own level if that has members. -/
theorem default?_eq_some_iff {field : SchemaNode} {value : Json} :
    field.default? = some value ↔
      field.info.sourceDefault? = some value ∨
        field.info.sourceDefault? = none ∧
          ∃ nested, field.shape? = some nested ∧ defaultEntry nested ≠ [] ∧
            value = .obj (defaultEntry nested) := by
  cases field with
  | scalar info type => simp [default?, SchemaNode.info, shape?]
  | sequence info element => simp [default?, SchemaNode.info, shape?]
  -- only an object has a level whose entry stands in for a default
  | object info fields =>
    rw [default?]
    cases hwritten : info.sourceDefault? with
    | some written => simp [SchemaNode.info, hwritten]
    | none =>
      cases hentry : defaultEntry fields with
      | nil => simp [SchemaNode.info, shape?, hwritten, hentry]
      | cons member rest =>
        simp only [SchemaNode.info, shape?, hwritten, reduceCtorEq, true_and, false_or,
          Option.some.injEq, exists_eq_left', hentry, ne_eq, not_false_eq_true]
        exact eq_comm

/-- `default?` gives something if a default is written, or the own level has a default entry. -/
private theorem isSome_default?_iff_written_or {field : SchemaNode} :
    field.default?.isSome ↔
      field.Written ∨ ∃ nested, field.shape? = some nested ∧ defaultEntry nested ≠ [] := by
  rw [Option.isSome_iff_exists]
  simp only [default?_eq_some_iff, Written]
  cases field.info.sourceDefault? with
  | some written => simp
  | none => simp

end SchemaNode

/-! ## Members -/

/-- In `defaultEntry` every field brings in its own default, in the order of the level. -/
private theorem defaultEntry_eq_filterMap (shape : Shape) :
    defaultEntry shape = shape.filterMap fun e => e.2.default?.map (e.1, ·) := by
  induction shape with
  | nil => rfl
  | cons e rest ih =>
    obtain ⟨name, field⟩ := e
    rw [defaultEntry, List.filterMap_cons]
    cases field.default? with
    | none => exact ih
    | some value => exact congrArg _ ih

/-- The members of `defaultEntry` are the defaults of the fields. -/
private theorem mem_defaultEntry_iff {shape : Shape} {name : String} {value : Json} :
    (name, value) ∈ defaultEntry shape ↔
      ∃ field, (name, field) ∈ shape ∧ field.default? = some value := by
  rw [defaultEntry_eq_filterMap, List.mem_filterMap]
  simp only [Option.map_eq_some_iff, Prod.mk.injEq]
  constructor
  · rintro ⟨⟨name, field⟩, hmem, value, hdefault, rfl, rfl⟩
    exact ⟨field, hmem, hdefault⟩
  · rintro ⟨field, hmem, hdefault⟩
    exact ⟨(name, field), hmem, value, hdefault, rfl, rfl⟩

/-- `defaultEntry` has members if some field has a default. -/
private theorem defaultEntry_ne_nil_iff {shape : Shape} :
    defaultEntry shape ≠ [] ↔ ∃ name field, (name, field) ∈ shape ∧ field.default?.isSome := by
  constructor
  · intro hne
    obtain ⟨⟨name, value⟩, hmem⟩ := List.exists_mem_of_ne_nil _ hne
    obtain ⟨field, hfield, hdefault⟩ := mem_defaultEntry_iff.mp hmem
    exact ⟨name, field, hfield, hdefault ▸ rfl⟩
  · rintro ⟨name, field, hfield, hsome⟩
    obtain ⟨value, hdefault⟩ := Option.isSome_iff_exists.mp hsome
    exact List.ne_nil_of_mem (mem_defaultEntry_iff.mpr ⟨field, hfield, hdefault⟩)

/-- The names in `defaultEntry` are in the order of the level. -/
private theorem names_defaultEntry_sublist (shape : Shape) :
    (Assoc.names (defaultEntry shape)).Sublist (Assoc.names shape) := by
  rw [defaultEntry_eq_filterMap]
  induction shape with
  | nil => exact List.Sublist.refl _
  | cons e rest ih =>
    rw [List.filterMap_cons]
    cases e.2.default? with
    | none => exact ih.cons _
    | some value => exact ih.cons_cons _

/-- A field is in the default entry of its level exactly if it is `Defaulted`. -/
theorem SchemaNode.isSome_default?_iff {shape : Shape} {name : String} {field : SchemaNode}
    (h : (name, field) ∈ shape) : field.default?.isSome ↔ field.Defaulted := by
  -- by induction over the levels: a nested default entry is empty iff no field of it is `Defaulted`
  induction shape using Shape.induction generalizing name field with
  | level shape ih =>
    rw [isSome_default?_iff_written_or, defaulted_iff]
    refine or_congr_right ⟨?_, ?_⟩
    · rintro ⟨nested, hshape, hentry⟩
      obtain ⟨name', inner, hinner, hdefault⟩ := defaultEntry_ne_nil_iff.mp hentry
      exact ⟨inner, ⟨nested, name', hshape, hinner⟩,
        (ih name field nested h (Or.inl hshape) hinner).mp hdefault⟩
    · rintro ⟨inner, ⟨nested, name', hshape, hinner⟩, hdefaulted⟩
      have hdefault := (ih name field nested h (Or.inl hshape) hinner).mpr hdefaulted
      exact ⟨nested, hshape, defaultEntry_ne_nil_iff.mpr ⟨name', inner, hinner, hdefault⟩⟩

/-- `defaultEntry` has the fields that are `Defaulted`. -/
private theorem has_defaultEntry_iff {shape : Shape} {name : String} :
    Assoc.has (defaultEntry shape) name ↔ ∃ field, (name, field) ∈ shape ∧ field.Defaulted := by
  rw [Assoc.has_iff_mem_names, Assoc.names, List.mem_map]
  simp only [Prod.exists, mem_defaultEntry_iff]
  constructor
  · rintro ⟨_, value, ⟨field, hmem, hdefault⟩, rfl⟩
    exact ⟨field, hmem, (SchemaNode.isSome_default?_iff hmem).mp (hdefault ▸ rfl)⟩
  · rintro ⟨field, hmem, hdefaulted⟩
    have hsome := (SchemaNode.isSome_default?_iff hmem).mpr hdefaulted
    obtain ⟨value, hdefault⟩ := Option.isSome_iff_exists.mp hsome
    exact ⟨name, value, ⟨field, hmem, hdefault⟩, rfl⟩

/-! ## Filling a map in -/

namespace Assoc

/-- What is added to a list comes from the extender, in its order. -/
private theorem exists_extend_eq_append {α : Type} (base extender : List (String × α)) :
    ∃ added, extend base extender = base ++ added ∧ added.Sublist extender := by
  refine ⟨_, extend_eq base extender, List.filter_sublist.trans ?_⟩
  induction extender with
  | nil => exact List.Sublist.refl _
  | cons e rest ih => exact (List.filter_sublist.trans ih).cons_cons _

/-- `extend` has what one of the two lists has. -/
private theorem has_extend {α : Type} (base extender : List (String × α)) (name : String) :
    has (extend base extender) name = (has base name || has extender name) := by
  rw [has, find?_extend, Option.isSome_or, has, has]

end Assoc

/-- The default entry of a level has a member for every field that is `Defaulted`, in the order of
the level. The value is the default written for the field or, without one, the default entry of the
nested level, which then has members. A map extended by the entry goes on with members of the entry
after its own, and it lacks those fields of the level that it lacked and that are not
`Defaulted`. -/
theorem defaultEntry_fills (shape : Shape) :
    (∀ name, Assoc.has (defaultEntry shape) name ↔
      ∃ field, (name, field) ∈ shape ∧ field.Defaulted) ∧
    (Assoc.names (defaultEntry shape)).Sublist (Assoc.names shape) ∧
    (∀ name value, (name, value) ∈ defaultEntry shape ↔
      ∃ field, (name, field) ∈ shape ∧
        (field.info.sourceDefault? = some value ∨
          field.info.sourceDefault? = none ∧
            ∃ nested, field.shape? = some nested ∧ defaultEntry nested ≠ [] ∧
              value = .obj (defaultEntry nested))) ∧
    ∀ d : Json.Members,
      (∃ added, Assoc.extend d (defaultEntry shape) = d ++ added ∧
        added.Sublist (defaultEntry shape)) ∧
      ∀ name, ¬ Assoc.has (Assoc.extend d (defaultEntry shape)) name ↔
        ¬ Assoc.has d name ∧ ¬ ∃ field, (name, field) ∈ shape ∧ field.Defaulted := by
  refine ⟨fun _ => has_defaultEntry_iff, names_defaultEntry_sublist shape, ?_, ?_⟩
  · intro name value
    rw [mem_defaultEntry_iff]
    simp only [SchemaNode.default?_eq_some_iff]
  · intro d
    refine ⟨Assoc.exists_extend_eq_append d (defaultEntry shape), ?_⟩
    intro name
    rw [Assoc.has_extend, Bool.or_eq_true, not_or, has_defaultEntry_iff]

end PrimitiveDesk
