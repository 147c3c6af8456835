import PrimitiveDesk.Editor.Signature
import PrimitiveDesk.Project.Kind
import PrimitiveDesk.Schema.Defaults

/-!
# Outlines

The outline of a data file: one class for each extension or primitive, and in a primitive one
namespace for each target extension, in order of first appearance, with one field for each
definition that targets it.
-/

namespace PrimitiveDesk

/-- What a symbol of an outline stands for. -/
inductive SymbolKind where
  /-- A primitive or an extension. -/
  | entry
  /-- The definitions of a primitive for one extension. -/
  | target
  | definition
deriving DecidableEq, Repr

/-- A symbol of an outline. -/
inductive Symbol where
  | mk (name : String) (kind : SymbolKind) (span : Span) (children : List Symbol)
deriving Repr

namespace Symbol

/-- The name of a symbol. -/
def name : Symbol → String
  | mk n _ _ _ => n

/-- What a symbol stands for. -/
def kind : Symbol → SymbolKind
  | mk _ k _ _ => k

/-- The span of a symbol. -/
def span : Symbol → Span
  | mk _ _ s _ => s

/-- The symbols inside a symbol. -/
def children : Symbol → List Symbol
  | mk _ _ _ cs => cs

end Symbol

namespace Outline

/-- The strings under a key of a node. -/
def stringsAt (n : Yaml.Node) (key : String) : List String :=
  ((n.get? key).map (·.stringList)).getD []

/-- The label of a definition: its types and its flags. -/
def definitionLabel (definition : Yaml.Node) : String :=
  let flags := (stringsAt definition "lscpu_flags").mergeSort (· ≤ ·)
  let flags := if flags.isEmpty then "default" else String.intercalate ", " flags
  let signature := Signature.ofTypes (stringsAt definition "ctype")
  if signature.isEmpty then "(" ++ flags ++ ")" else signature ++ " (" ++ flags ++ ")"

/-- The fields of a definition, one for each extension that it targets. -/
def definitionFields (definition : Yaml.Node) : List (String × Symbol) :=
  let field := Symbol.mk (definitionLabel definition) .definition definition.span []
  (stringsAt definition "target_extension").map fun e => (e, field)

/-- Puts a field into the namespace of its extension, which is opened if it is new. -/
def place : List Symbol → String × Symbol → List Symbol
  | [], (extension, field) => [.mk extension .target field.span [field]]
  | g :: gs, (extension, field) =>
    if g.name = extension then
      .mk g.name g.kind (g.span.cover field.span) (g.children ++ [field]) :: gs
    else g :: place gs (extension, field)

/-- The definitions of a document. -/
def definitionsOf (d : Yaml.Document) : List Yaml.Node :=
  ((d.get? definitionsKey).bind (·.items?)).getD []

/-- The symbol of an extension document. -/
def extensionSymbol? (d : Yaml.Document) : Option Symbol :=
  ((d.get? "extension_name").bind (·.str?)).map fun name =>
    .mk name .entry ⟨d.range.start, d.range.contentEnd⟩ []

/-- The symbol of a primitive document. -/
def primitiveSymbol? (d : Yaml.Document) : Option Symbol :=
  ((d.get? "primitive_name").bind (·.str?)).map fun primitive =>
    let name := match (d.get? "functor_name").bind (·.str?) with
      | some functor => primitive ++ " (overload " ++ functor ++ ")"
      | none => primitive
    .mk name .entry ⟨d.range.start, d.range.stop⟩
      (((definitionsOf d).flatMap definitionFields).foldl place [])

end Outline

/-- The outline of a data file. -/
def outline (stream : Yaml.Stream) : DataFileKind → List Symbol
  | .extension => stream.documents.filterMap Outline.extensionSymbol?
  | .primitive => stream.documents.filterMap Outline.primitiveSymbol?
  | .unknown => []

end PrimitiveDesk
