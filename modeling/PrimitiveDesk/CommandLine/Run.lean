import PrimitiveDesk.CommandLine.Help
import PrimitiveDesk.Editor.Finding
import PrimitiveDesk.Editor.Outline
import PrimitiveDesk.Json.Printer
import PrimitiveDesk.Project.Registry
import PrimitiveDesk.Text.LineIndex

/-!
# The command line

Checking data files, printing their outlines, and printing schemata, on a tree of files and from a
working folder. The result holds all that is printed.
-/

namespace PrimitiveDesk.CommandLine

/-- Why a command fails. -/
inductive CommandError where
  | unreadable (file : String) (cause : SystemError)
  | invalidSchema (file : String) (cause : SchemaError)
  /-- The number of errors that were found. -/
  | checkFailed (count : Nat)
deriving Inhabited

namespace CommandError

/-- The wording of an error. -/
def message : CommandError → String
  | unreadable file cause => file ++ ": " ++ cause.message
  | invalidSchema file cause => file ++ ": " ++ cause.message
  | checkFailed count => "found " ++ Text.decimal count ++ " error(s)"

/-- The exit code for an error. -/
def exitCode : CommandError → Nat
  | unreadable _ _ => 3
  | invalidSchema _ _ => 2
  | checkFailed _ => 1

end CommandError

/-- What a run of the program prints and how it ends. -/
structure Printed where
  exitCode : Nat
  output : String
  /-- The messages of the error output, in order. -/
  errors : List String
deriving DecidableEq, Repr, Inhabited

/-- The files that the program sees, and the folder it runs in. -/
structure Place where
  files : FileTree
  folder : Path
deriving Inhabited

/-- Reads a file that the command line names. -/
def Place.read (place : Place) (file : String) : Except CommandError String :=
  match place.files.textFrom place.folder (.ofText file) with
  | .ok text => .ok text
  | .error e => .error (.unreadable file e)

/-- The path of a file from the root of the tree, without detours. -/
def Place.canonical (place : Place) (file : String) : Path :=
  match place.files.resolve place.folder (.ofText file) with
  | .ok names => ⟨true, names⟩
  | .error _ => .ofText file

/-! ## Checking -/

/-- What is found in a file. The kind of a file follows from its place, or else from its content. -/
def checkFile (registry : Registry) (files : FileTree) (path : Path) (source : String) :
    List Finding × Registry :=
  let stream := Yaml.Stream.ofText source
  let (project, registry) := registry.projectFor? files.hasFile files.textAt path
  (check stream (DataFileKind.ofFile path stream) (project.map (·.schema.schemata)), registry)

/-- How a level is named in a report. -/
def levelName : FindingLevel → String
  | .error => "Error"
  | .warning => "Warning"
  | .information => "Advice"
  | .hint => "Advice"

/-- The report of a finding: what was found, and where. -/
def reportText (file : String) (ix : LineIndex) (f : Finding) : String :=
  let start := ix.position f.span.start
  "[" ++ f.code ++ "] " ++ levelName f.level ++ ": " ++ f.message ++ "\n    at " ++ file ++ ":" ++
    Text.decimal (start.line + 1) ++ ":" ++ Text.decimal (start.character + 1)

/-- Checks files one after another: the reports, and the number of errors, or the file that cannot
be read. -/
def checkAll (place : Place) (registry : Registry) :
    List String → List String × Except CommandError Nat
  | [] => ([], .ok 0)
  | file :: rest =>
    match place.read file with
    | .error e => ([], .error e)
    | .ok source =>
      let (found, registry) := checkFile registry place.files (place.canonical file) source
      let (reports, count) := checkAll place registry rest
      (found.map (reportText file (LineIndex.ofText source)) ++ reports,
        count.map (· + (found.filter fun f => f.level = .error).length))

/-! ## Outlines -/

mutual

/-- The lines of a symbol and those below it, two spaces deeper. -/
def symbolText (depth : Nat) : Symbol → String
  | .mk name _ _ children =>
    String.ofList (List.replicate (2 * depth) ' ') ++ name ++ "\n" ++
      symbolsText (depth + 1) children

/-- The lines of several symbols. -/
def symbolsText (depth : Nat) : List Symbol → String
  | [] => ""
  | s :: rest => symbolText depth s ++ symbolsText depth rest

end

/-- The outline of a file. -/
def outlineText (place : Place) (file : String) : Except CommandError String :=
  (place.read file).map fun source =>
    let stream := Yaml.Stream.ofText source
    symbolsText 0 (outline stream (DataFileKind.ofFile (.ofText file) stream))

/-! ## Schemata -/

/-- A schema source as the object shapes that follow from it. -/
def schemaText (place : Place) (file : String) : Except CommandError String :=
  match place.read file with
  | .error e => .error e
  | .ok source =>
    match Schemata.ofSource source with
    | .ok s => .ok (s.toJson.pretty ++ "\n")
    | .error e => .error (.invalidSchema file e)

/-! ## Running -/

/-- The line of an error. -/
def errorLine (message : String) : String := "error: " ++ message

/-- Prints a text, or why there is none. -/
def printed : Except CommandError String → Printed
  | .ok text => ⟨0, text, []⟩
  | .error e => ⟨e.exitCode, "", [errorLine e.message]⟩

/-- Does what the command line asks for. An editor that is not there is served at once. -/
def perform (place : Place) : Action → Printed
  | .version => ⟨0, "tslgen 0.1.0\n", []⟩
  | .help topic? => ⟨0, (helpPage topic?).text, []⟩
  | .serve => ⟨0, "", []⟩
  | .check files =>
    match checkAll place .empty files with
    | (reports, .ok 0) => ⟨0, "", reports⟩
    | (reports, .ok count) =>
      let e := CommandError.checkFailed count
      ⟨e.exitCode, "", reports ++ [errorLine e.message]⟩
    | (reports, .error e) => ⟨e.exitCode, "", reports ++ [errorLine e.message]⟩
  | .outline file => printed (outlineText place file)
  | .schema file => printed (schemaText place file)

/-- What the error output says about arguments that are refused. -/
def refusalText (e : UsageError) : String :=
  match e.message? with
  | some message => errorLine message
  | none => programPage.text

/-- Runs the program. Asking for nothing is answered by the help page on the error output. -/
def run (place : Place) (arguments : List String) : Printed :=
  match readArguments arguments with
  | .ok action => perform place action
  | .error e => ⟨2, "", [refusalText e]⟩

end PrimitiveDesk.CommandLine
