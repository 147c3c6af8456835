import PrimitiveDesk.Json.Printer
import PrimitiveDesk.Text.Span
import PrimitiveDesk.Yaml.Scalar

/-!
# Nodes

The nodes of a YAML document with their byte spans. Aliases are resolved already: an alias is a copy
of the node it refers to, with the alias's own span.

Merge keys (a plain `<<`) bring in the members of other mappings. There are two ways to see them:
`Node.get?` looks a key up, first among the written entries and then in the merged mappings in
order; `Node.toJson` builds the members of the whole mapping, written ones first.
-/

namespace PrimitiveDesk.Yaml

/-- A node of a document. -/
inductive Node where
  | scalar (value : Scalar) (span : Span)
  | sequence (items : List Node) (span : Span)
  | mapping (entries : List (Node × Node)) (span : Span)
deriving Inhabited, Repr

namespace Node

/-- The entries of a mapping, in source order. -/
abbrev Entries := List (Node × Node)

/-- The source span of a node. -/
def span : Node → Span
  | scalar _ s => s
  | sequence _ s => s
  | mapping _ s => s

/-- The same value at another place. -/
def withSpan (s : Span) : Node → Node
  | scalar v _ => scalar v s
  | sequence items _ => sequence items s
  | mapping entries _ => mapping entries s

/-- A plain scalar. -/
def plain (text : String) (s : Span) : Node :=
  scalar ⟨text, .plain⟩ s

/-- A missing value at an offset. -/
def missing (at_ : Nat) : Node :=
  plain "" (.empty at_)

/-- The text of a scalar that is not null. -/
def str? : Node → Option String
  | scalar v _ => if v.isNull then none else some v.text
  | _ => none

/-- Whether the node is a null scalar. -/
def isNull : Node → Bool
  | scalar v _ => v.isNull
  | _ => false

/-- The items of a sequence. -/
def items? : Node → Option (List Node)
  | sequence items _ => some items
  | _ => none

/-- The entries of a mapping. -/
def entries? : Node → Option Entries
  | mapping entries _ => some entries
  | _ => none

/-- Whether a node, as a key, merges its value into the mapping. -/
def isMergeKey : Node → Bool
  | scalar v _ => v.kind == .plain && v.text == "<<"
  | _ => false

/-- The value of the first written entry with the given key. -/
def written? (entries : Entries) (key : String) : Option Node :=
  (entries.find? fun e => e.1.str? == some key).map (·.2)

mutual

/-- The value of a key in a mapping: a written entry, or else the first one that a merged mapping
has. -/
def get? (key : String) : Node → Option Node
  | mapping entries _ => (written? entries key).or (merged? key entries)
  | _ => none

/-- The value of a key in the mappings that the entries merge. -/
def merged? (key : String) : Entries → Option Node
  | [] => none
  | (k, v) :: rest =>
    if isMergeKey k then
      (match v with
        | sequence items _ => firstOf? key items
        | v => get? key v).or (merged? key rest)
    else merged? key rest

/-- The value of a key in the first item that has it. -/
def firstOf? (key : String) : List Node → Option Node
  | [] => none
  | n :: rest => (get? key n).or (firstOf? key rest)

end

/-- Whether the node is a mapping with the given key. -/
def has (n : Node) (key : String) : Bool :=
  (n.get? key).isSome

/-- The written keys of a mapping, in source order. -/
def keys : Node → List String
  | mapping entries _ => entries.filterMap fun e => e.1.str?
  | _ => []

/-- The text of a scalar, or the texts of the scalars in a sequence. -/
def stringList : Node → List String
  | sequence items _ => items.filterMap str?
  | scalar v s => (str? (scalar v s)).toList
  | mapping _ _ => []

/-- An entry of a mapping as values: whether it merges, the name of its key, and its value. -/
structure Member where
  merges : Bool
  name : String
  value : Json

/-- The members that a merged value brings in, one list for each merged mapping. -/
def sources : Json → List Json.Members
  | .obj ms => [ms]
  | .arr items => items.filterMap Json.members?
  | _ => []

/-- The members of a mapping: written ones in order, then those of merged mappings that are not
there yet. -/
def assemble (members : List Member) : Json.Members :=
  let written := Assoc.ofList
    ((members.filter fun m => !m.merges).map fun m => (m.name, m.value))
  let merged := (members.filter fun m => m.merges).flatMap fun m => sources m.value
  merged.foldl Assoc.extend written

mutual

/-- The value of a node. -/
def toJson : Node → Json
  | scalar v _ => v.toJson
  | sequence items _ => .arr (itemsToJson items)
  | mapping entries _ => .obj (assemble (membersOf entries))

/-- The values of nodes. -/
def itemsToJson : List Node → List Json
  | [] => []
  | n :: rest => toJson n :: itemsToJson rest

/-- The entries of a mapping as values. A key that is no scalar is named by its JSON text. -/
def membersOf : Entries → List Member
  | [] => []
  | (k, v) :: rest =>
    let name := match k with
      | scalar s _ => s.text
      | k => (toJson k).compact
    ⟨isMergeKey k, name, toJson v⟩ :: membersOf rest

end

end Node

end PrimitiveDesk.Yaml
