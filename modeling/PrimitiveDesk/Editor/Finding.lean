import PrimitiveDesk.Project.Kind
import PrimitiveDesk.Schema.Basic
import PrimitiveDesk.Text.Digit

/-!
# Findings

What is wrong with a data file: the problems of its reader, and the fields that are missing or
needless by its schema. The schema is followed as far as the file has mappings and sequences in the
places where it asks for them (`Finding.ofLevel`).
-/

namespace PrimitiveDesk

open Text

/-- How bad a finding is, the worst first. -/
inductive FindingLevel where
  | error
  | warning
  | information
  | hint
deriving DecidableEq, Repr

/-- What a finding is about. -/
inductive FindingKind where
  /-- A problem of the reader. -/
  | problem (p : Yaml.Problem)
  | missingRequired (field : String)
  | missingRecommended (field : String)
  /-- A recommended field that has its default value. -/
  | setToDefault (field : String)
deriving DecidableEq, Repr

/-- A finding with its place in the text. -/
structure Finding where
  kind : FindingKind
  span : Span
deriving DecidableEq, Repr

/-- Whether the text goes on with a place: the word, a blank and a digit. -/
def startsPlace (cs : List Char) : Bool :=
  match cs with
  | ' ' :: 'a' :: 't' :: ' ' :: a :: b :: c :: d :: ' ' :: n :: _ =>
    ([a, b, c, d] == ['l', 'i', 'n', 'e'] || [a, b, c, d] == ['b', 'y', 't', 'e']) && isDecimal n
  | _ => false

/-- A message without the place that it names, and without what follows it. -/
def dropPlace : List Char → List Char
  | [] => []
  | c :: cs => if startsPlace (c :: cs) then [] else c :: dropPlace cs

namespace Finding

/-- How bad the finding is. -/
def level (f : Finding) : FindingLevel :=
  match f.kind with
  | .problem p => match p.severity with
    | .error => .error
    | .warning => .warning
  | .missingRequired _ => .error
  | .missingRecommended _ => .information
  | .setToDefault _ => .hint

/-- The stable name of the kind of finding. -/
def code (f : Finding) : String :=
  match f.kind with
  | .problem p => p.code
  | .missingRequired _ => "KEY_ERROR"
  | .missingRecommended _ => "KEY_WARNING"
  | .setToDefault _ => "VALUE_WARNING"

/-- The wording of a finding. -/
def message (f : Finding) : String :=
  match f.kind with
  | .problem p =>
    p.name ++ ": " ++ String.ofList (trimEnd (dropPlace p.message.toList))
  | .missingRequired n => "Missing required field `" ++ n ++ "`"
  | .missingRecommended n => "Missing recommended field `" ++ n ++ "`"
  | .setToDefault n => "Recommended field `" ++ n ++ "` is set to default value"

/-- The problems of the reader as findings. -/
def ofProblem (p : Yaml.Problem) : Finding :=
  ⟨.problem p, p.span⟩

/-- Where a missing field is reported: at the start of its mapping. -/
def startOf (n : Yaml.Node) : Span :=
  ⟨n.span.start, n.span.start + 1⟩

/-- The finding about a field that a mapping does not have. -/
def ofAbsent (n : Yaml.Node) (name : String) (field : SchemaNode) : List Finding :=
  if field.isRequired then [⟨.missingRequired name, startOf n⟩]
  else if field.isRecommended then [⟨.missingRecommended name, startOf n⟩]
  else []

/-- The finding about the value of a field. -/
def ofValue (value : Yaml.Node) (name : String) (field : SchemaNode) : List Finding :=
  match field.info.default? with
  | some d =>
    if field.info.recommended && d.same value.toJson then [⟨.setToDefault name, value.span⟩] else []
  | none => []

mutual

/-- The findings about the fields of a mapping. Nothing is asked of other nodes. -/
def ofLevel (n : Yaml.Node) : List (String × SchemaNode) → List Finding
  | [] => []
  | (name, field) :: rest =>
    (match n with
      | .mapping _ _ => ofField n name field
      | _ => []) ++ ofLevel n rest

/-- The findings about one field of a mapping, and about what stands below it. -/
def ofField (n : Yaml.Node) (name : String) (field : SchemaNode) : List Finding :=
  match n.get? name with
  | none => ofAbsent n name field
  | some value => ofValue value name field ++ below value field

/-- The findings about what stands below the value of a field. -/
def below (value : Yaml.Node) : SchemaNode → List Finding
  | .scalar _ _ => []
  | .object _ fields => ofLevel value fields
  | .sequence _ (.object _ fields) =>
    match value with
    | .sequence items _ => items.flatMap fun item => ofLevel item fields
    | _ => []
  | .sequence _ _ => []

end

end Finding

/-- The level that a document must follow, by the kind of its file and its index. The first document
of a primitive file describes the class of its primitives. -/
def Schemata.levelOf? (s : Schemata) (kind : DataFileKind) (index : Nat) : Option Shape :=
  match kind with
  | .primitive => some (if index = 0 then s.primitiveClass else s.primitive)
  | .extension => some s.extension
  | .unknown => none

/-- The findings about the documents of a data file, by their schema. -/
def Schemata.findings (s : Schemata) (kind : DataFileKind) (documents : List Yaml.Document) :
    List Finding :=
  documents.zipIdx.flatMap fun (d, i) =>
    match s.levelOf? kind i, d.root? with
    | some shape, some root => Finding.ofLevel root shape
    | _, _ => []

/-- All findings about a data file. Without a schema only the reader's problems are known. -/
def check (stream : Yaml.Stream) (kind : DataFileKind) (schemata? : Option Schemata) :
    List Finding :=
  stream.problems.map Finding.ofProblem ++
    match schemata? with
    | some s => s.findings kind stream.documents
    | none => []

end PrimitiveDesk
