import PrimitiveDesk.Editor.Navigation
import PrimitiveDesk.Layout.Context
import PrimitiveDesk.Project.Kind
import PrimitiveDesk.Text.LineIndex

/-!
# Completion

Suggestions for a cursor in a half-written data file: a new document where nothing stands yet, a new
entry of a sequence, or the fields of the cursor's level that are not written yet. Snippets mark
their stops with a dollar sign, so literal text is escaped (`escapeSnippet`).
-/

namespace PrimitiveDesk

open Layout Text

/-- What a suggestion inserts. -/
inductive SuggestionKind where
  | document
  | element
  | field
deriving DecidableEq, Repr

/-- A suggestion. -/
structure Suggestion where
  label : String
  kind : SuggestionKind
  snippet : String
  /-- What was typed already and the snippet continues. -/
  replacedPrefix : String
  documentation? : Option String
  /-- The line to be replaced by what was typed and the snippet. -/
  deleteRange? : Option Span
deriving Repr, DecidableEq

namespace Completion

/-- Literal text inside a snippet. -/
def escapeSnippet (text : String) : String :=
  String.ofList (text.toList.flatMap fun c =>
    if c == '$' || c == '\x7d' || c == '\\' then ['\\', c] else [c])

/-- The value that stands for a required field until it is filled in. -/
def placeholder : SchemaNode → String
  | .scalar _ .string => " ''"
  | .sequence _ _ => " []"
  | .object _ _ => " \x7b\x7d"
  | .scalar _ _ => " "

/-- The line of a required field behind its indentation. -/
def fieldLine (field : String × SchemaNode) : String :=
  escapeSnippet field.1 ++ ":" ++ placeholder field.2

/-- The lines of the required fields. All lines but the first are indented, and the first only if
asked. -/
def skeleton (shape : Shape) (indent : String) (indentFirst : Bool) : String :=
  let required := shape.filter fun f => f.2.isRequired
  match required.map fieldLine with
  | [] => ""
  | first :: rest =>
    String.intercalate "\n"
      ((if indentFirst then indent ++ first else first) :: rest.map (indent ++ ·))

/-- The body of a new sequence entry, behind its dash. -/
def elementSkeleton (element : SchemaNode) (unit : String) : String :=
  match element with
  | .object _ shape => skeleton shape unit false
  | .scalar _ .string => "'$\x7b1\x7d'"
  | .scalar _ t => "$\x7b1:" ++ t.name ++ "\x7d"
  | .sequence _ _ => "[]"

/-- The snippet of a field that is not written yet. -/
def fieldSnippet (name : String) (node : SchemaNode) (unit : String) : String :=
  let name := escapeSnippet name
  match node with
  | .sequence _ (.object _ shape) =>
    name ++ ":\n" ++ unit ++ "- " ++ skeleton shape (unit ++ unit) false
  | .sequence _ _ => name ++ ": []"
  | .object _ shape => name ++ ":\n" ++ skeleton shape unit true
  | .scalar _ _ => name ++ ": "

/-- Splits a text into what was typed already and the rest, if it continues what was typed. -/
def continueTyped (full : String) (typed : List Char) : String × String :=
  if !typed.isEmpty && typed.isPrefixOf full.toList then
    (String.ofList typed, String.ofList (full.toList.drop typed.length))
  else ("", full)

/-- The suggestion of a new document, with the markers that are missing around it. -/
def newDocument (shape : Shape) (kind : DataFileKind) (opened closed : Bool) (typed : List Char)
    (line : Span) : Suggestion :=
  let start := if opened then "" else documentStart
  let stop := if closed then "" else documentEnd
  let full := start ++ "\n" ++ skeleton shape "" true ++ "\n" ++ stop
  let (typed, snippet) := continueTyped full typed
  ⟨"New " ++ kind.name ++ ":", .document, snippet, typed, none, some line⟩

/-- The suggestion of a new entry of a sequence. -/
def newElement (key : String) (element : SchemaNode) (unit : String) (typed : List Char) :
    Suggestion :=
  let (typed, snippet) := continueTyped ("- " ++ elementSkeleton element unit) typed
  ⟨"New Element of " ++ key ++ ":", .element, snippet, typed, none, none⟩

/-- The suggestion of a field. -/
def newField (unit : String) (field : String × SchemaNode) : Suggestion :=
  ⟨field.1 ++ ":", .field, fieldSnippet field.1 field.2 unit, "", field.2.info.comment?, none⟩

/-- The suggestions for a context. -/
def suggest (context : Context) (shape : Shape) (kind : DataFileKind) (unit : String)
    (opened closed : Bool) (typed : List Char) (line : Span) : List Suggestion :=
  match context with
  | .newDocument => [newDocument shape kind opened closed typed line]
  | .nested ancestors siblings =>
    match shape.navigate? ancestors with
    | none => []
    | some (.sequence key element) => [newElement key element unit typed]
    | some (.fields fields) =>
      (fields.filter fun f => !siblings.contains f.1).map (newField unit)

end Completion

/-- The suggestions at a position of a text; `unit` is one level of indentation. -/
def complete (text : String) (position : Position) (shape : Shape) (kind : DataFileKind)
    (unit : String) : List Suggestion :=
  let ls := lines text.toList
  let index := LineIndex.ofText text
  match resolveLines ls position.line, index.lineSpan? position.line with
  | some context, some line =>
    let typed := trimStart ((slice? text.toList ⟨line.start, index.offset position⟩).getD [])
    Completion.suggest context shape kind unit (isOpened ls position.line)
      (isClosed ls position.line) typed line
  | _, _ => []

/-- The level at which completion starts in a file of the given kind. -/
def Schemata.shapeFor? (s : Schemata) : DataFileKind → Option Shape
  | .extension => some s.extension
  | .primitive => some s.primitive
  | .unknown => none

end PrimitiveDesk
