import PrimitiveDesk.Yaml.Token

/-!
# Events

The events of a YAML text tell its documents and nodes in order. Anchors are numbered from one on
in order of appearance; zero stands for a node without an anchor.
-/

namespace PrimitiveDesk.Yaml

/-- What an event tells. -/
inductive EventKind where
  | streamStart
  | streamEnd
  | documentStart
  | documentEnd
  | alias (anchor : Nat)
  | scalar (text : String) (style : Style) (anchor : Nat)
  | sequenceStart (anchor : Nat)
  | sequenceEnd
  | mappingStart (anchor : Nat)
  | mappingEnd
deriving DecidableEq, Repr

/-- An event with its place in the text. -/
structure Event where
  kind : EventKind
  extent : Extent
deriving DecidableEq, Repr

/-- The events of a text up to its first fault, and that fault. -/
structure EventStream where
  events : List Event
  error? : Option ScanError

/-- The text of a scalar that is not written, such as a missing value. -/
def unwrittenText : String := "~"

end PrimitiveDesk.Yaml
