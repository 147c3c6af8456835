import PrimitiveDesk.Project.Kind
import PrimitiveDesk.Schema.Defaults

/-!
# Selecting an entry

What is selected at an offset of a data file: a document, and in it perhaps one of its definitions.
-/

namespace PrimitiveDesk

/-- Why there is nothing to preview or to build. -/
inductive SelectionError where
  | nothingSelected
  | missingType
  | missingExtension
deriving DecidableEq, Repr, Inhabited

namespace SelectionError

/-- The wording of an error. -/
def message : SelectionError → String
  | nothingSelected => "No primitive or extension selected."
  | missingType => "Please specify a ctype."
  | missingExtension => "Please specify an extension."

end SelectionError

/-- The definition of a document at an offset; both ends of a definition belong to it. -/
def selectedDefinition? (d : Yaml.Document) (offset : Nat) : Option Yaml.Node :=
  ((d.get? definitionsKey).bind (·.items?)).bind fun items =>
    items.find? fun n => n.span.start ≤ offset && offset ≤ n.span.stop

/-- The first extension that a definition targets. -/
def targetExtension? (definition : Yaml.Node) : Option String :=
  (definition.get? "target_extension").bind fun n => n.stringList.head?

/-- The primitive and the extension to build. -/
structure BuildTarget where
  primitive : String
  extension : String
deriving DecidableEq, Repr, Inhabited

/-- The build target at an offset of a text. -/
def buildTarget (stream : Yaml.Stream) (offset : Nat) : Except SelectionError BuildTarget :=
  match stream.documentAt? offset with
  | none => .error .nothingSelected
  | some (_, d) =>
    match (d.get? "primitive_name").bind (·.str?), selectedDefinition? d offset with
    | some primitive, some definition =>
      match targetExtension? definition with
      | some extension => .ok ⟨primitive, extension⟩
      | none => .error .missingExtension
    | _, _ => .error .nothingSelected

end PrimitiveDesk
