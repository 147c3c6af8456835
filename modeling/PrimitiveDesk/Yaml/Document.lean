import PrimitiveDesk.Yaml.Event
import PrimitiveDesk.Yaml.Node

/-!
# Documents

The documents of a YAML text with everything its reader complained about. A document ranges from its
start marker, or its first token, to its end marker or the token behind it; its content ends with
its root.
-/

namespace PrimitiveDesk.Yaml

/-- How serious a problem is. -/
inductive Severity where
  | error
  | warning
deriving DecidableEq, Repr

/-- What is wrong with a text. -/
inductive ProblemKind where
  /-- The text is not YAML. -/
  | scan (error : ScanError)
  /-- An alias inside its own anchored node. -/
  | unknownAlias
  /-- A key that its mapping has already. -/
  | duplicateKey (name : String)
deriving DecidableEq, Repr

/-- A problem with its place in the text. -/
structure Problem where
  kind : ProblemKind
  span : Span
deriving DecidableEq, Repr

namespace Problem

/-- Repeated keys are warnings, all else is an error. -/
def severity (p : Problem) : Severity :=
  match p.kind with
  | .duplicateKey _ => .warning
  | _ => .error

/-- The stable name of the kind of problem. -/
def code (p : Problem) : String :=
  match p.kind with
  | .scan _ => "SCAN_ERROR"
  | .unknownAlias => "UNKNOWN_ALIAS"
  | .duplicateKey _ => "DUPLICATE_KEY"

/-- The wording of a problem. -/
def message (p : Problem) : String :=
  match p.kind with
  | .scan e => e.message
  | .unknownAlias => "Alias refers to an unknown anchor"
  | .duplicateKey name => "Map keys must be unique; \"" ++ name ++ "\" is repeated"

/-- The label under which a problem is shown. -/
def name (p : Problem) : String :=
  match p.severity with
  | .error => "YAMLParseError"
  | .warning => "YAMLWarning"

end Problem

/-- The byte offsets of a document. -/
structure DocumentRange where
  start : Nat
  contentEnd : Nat
  stop : Nat
deriving DecidableEq, Repr, Inhabited

/-- A document. -/
structure Document where
  /-- The root node; none if the document was cut off before any content. -/
  root? : Option Node
  range : DocumentRange
deriving Inhabited, Repr

namespace Document

/-- The value of a top-level key. -/
def get? (d : Document) (key : String) : Option Node :=
  d.root?.bind (·.get? key)

/-- Whether the document has a top-level key. -/
def has (d : Document) (key : String) : Bool :=
  (d.get? key).isSome

/-- The value of the document. -/
def toJson (d : Document) : Json :=
  match d.root? with
  | some n => n.toJson
  | none => .null

/-- Whether the offset lies in the document, both ends included. -/
def contains (d : Document) (offset : Nat) : Bool :=
  d.range.start ≤ offset && offset ≤ d.range.stop

end Document

/-- The documents of a text and the problems met while reading it. -/
structure Stream where
  documents : List Document
  problems : List Problem
deriving Inhabited

namespace Stream

/-- The first document that contains the offset, with its index. -/
def documentAt? (s : Stream) (offset : Nat) : Option (Nat × Document) :=
  (s.documents.zipIdx.find? fun p => p.1.contains offset).map fun p => (p.2, p.1)

end Stream

end PrimitiveDesk.Yaml
