import PrimitiveDesk.Json.Basic
import PrimitiveDesk.Server.Build

/-!
# Messages as JSON

The values that the server sends, in the form that clients read.
-/

namespace PrimitiveDesk

/-- A number. -/
def Json.ofNat (n : Nat) : Json := .int n

/-- A position. -/
def Position.toJson (p : Position) : Json :=
  .obj [("line", .ofNat p.line), ("character", .ofNat p.character)]

/-- A range of positions. -/
def rangeJson (r : Position × Position) : Json :=
  .obj [("start", r.1.toJson), ("end", r.2.toJson)]

/-- The number of a level. -/
def FindingLevel.number : FindingLevel → Nat
  | error => 1
  | warning => 2
  | information => 3
  | hint => 4

/-- A diagnostic. -/
def Diagnostic.toJson (d : Diagnostic) : Json :=
  .obj [("range", rangeJson d.range), ("severity", .ofNat d.level.number), ("code", .str d.code),
    ("source", .str "yaml"), ("message", .str d.message)]

/-- The number of a level. -/
def MessageLevel.number : MessageLevel → Nat
  | error => 1
  | warning => 2
  | info => 3

namespace Notice

/-- The files whose changes the server wants to hear of. -/
def watchedPattern : String := "**/*_generator_schema.yaml"

/-- The name of the message that carries a notice. -/
def method : Notice → String
  | diagnostics _ _ _ => "textDocument/publishDiagnostics"
  | display _ _ => "window/showMessage"
  | log _ _ => "window/logMessage"
  | watchSchemata => "client/registerCapability"

/-- A message with its level. -/
def levelled (level : MessageLevel) (message : String) : Json :=
  .obj [("type", .ofNat level.number), ("message", .str message)]

/-- What the message of a notice holds. -/
def content : Notice → Json
  | diagnostics uri items version? =>
    .obj ([("uri", .str uri.text), ("diagnostics", .arr (items.map Diagnostic.toJson))] ++
      match version? with
      | some v => [("version", .int v)]
      | none => [])
  | display level message => levelled level message
  | log level message => levelled level message
  | watchSchemata =>
    let watcher : Json := .obj [("globPattern", .str watchedPattern)]
    .obj [("registrations", .arr [.obj [("id", .str "tslgen-schema-watcher"),
      ("method", .str "workspace/didChangeWatchedFiles"),
      ("registerOptions", .obj [("watchers", .arr [watcher])])]])]

/-- The message of a notice. -/
def toJson (n : Notice) : Json :=
  .obj [("method", .str n.method), ("params", n.content)]

end Notice

/-! ## Completion -/

/-- The number of the icon of a suggestion. -/
def SuggestionKind.number : SuggestionKind → Nat
  | document => 15
  | element => 15
  | field => 5

/-- A number with at least four digits. -/
def fourDigits (n : Nat) : String :=
  let digits := Text.decimal n
  String.ofList (List.replicate (4 - digits.length) '0') ++ digits

/-- A suggestion at a place of the list. One that replaces text is an edit of the document. -/
def Suggestion.toJson (content : String) (index : Nat) (s : Suggestion) : Json :=
  .obj ([("label", .str s.label), ("kind", .ofNat s.kind.number)] ++
    (match s.documentation? with
      | some text => [("documentation", .obj [("kind", .str "markdown"), ("value", .str text)])]
      | none => []) ++
    [("sortText", .str (fourDigits index))] ++
    (if s.deleteRange?.isSome then [] else [("insertText", .str s.snippet)]) ++
    [("insertTextFormat", .ofNat 2), ("insertTextMode", .ofNat 2)] ++
    match s.deleteRange? with
    | some span =>
      [("textEdit", .obj [("range", rangeJson ((LineIndex.ofText content).range span)),
        ("newText", .str (s.replacedPrefix ++ s.snippet))])]
    | none => [])

/-! ## Outline -/

/-- The number of the icon of a symbol. -/
def SymbolKind.number : SymbolKind → Nat
  | entry => 5
  | target => 3
  | definition => 8

mutual

/-- A symbol with those below it. -/
def Symbol.toJson (ix : LineIndex) : Symbol → Json
  | .mk name kind span children =>
    let range := rangeJson (ix.range span)
    .obj ([("name", .str name), ("kind", .ofNat kind.number), ("range", range),
      ("selectionRange", range)] ++
      if children.isEmpty then [] else [("children", .arr (Symbol.listToJson ix children))])

/-- Several symbols. -/
def Symbol.listToJson (ix : LineIndex) : List Symbol → List Json
  | [] => []
  | s :: rest => Symbol.toJson ix s :: Symbol.listToJson ix rest

end

/-! ## Commands -/

/-- A preview. -/
def Preview.toJson (p : Preview) : Json :=
  .obj [("staticContent", .str p.content),
    ("variableContent", .arr (p.variants.map fun v =>
      .obj [("content", .str v.content), ("ctype", .str v.type)]))]

/-- How a build ended. -/
def BuildStatus.toJson : BuildStatus → Json
  | passed log => .obj [("status", .str "passed"), ("log", .str log)]
  | alreadyActive => .obj [("status", .str "alreadyActive")]
  | failed message => .obj [("status", .str "failed"), ("message", .str message)]

end PrimitiveDesk
