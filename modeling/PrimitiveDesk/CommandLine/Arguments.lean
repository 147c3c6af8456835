/-!
# Arguments of the command line

The first argument that is no option names what to do; the arguments behind it are files. Arguments
are read from left to right, and the first that does not fit is reported.
-/

namespace PrimitiveDesk.CommandLine

/-- What the program can do. -/
inductive Command where
  /-- Serve an editor. -/
  | lsp
  | check
  | outline
  | schema
  | help
deriving DecidableEq, Repr, Inhabited

namespace Command

/-- All commands, in the order in which they are listed. -/
def all : List Command := [lsp, check, outline, schema, help]

/-- The name of a command. -/
def name : Command → String
  | lsp => "lsp"
  | check => "check"
  | outline => "outline"
  | schema => "schema"
  | help => "help"

/-- The command of a name. -/
def ofName? (s : String) : Option Command :=
  all.find? fun c => c.name == s

end Command

/-- What the command line asks for. -/
inductive Action where
  | version
  /-- Help on a command, or on the program. -/
  | help (topic? : Option Command)
  /-- Serve an editor. -/
  | serve
  | check (files : List String)
  | outline (file : String)
  | schema (file : String)
deriving DecidableEq, Repr, Inhabited

/-- Why arguments are refused. -/
inductive UsageError where
  /-- Nothing is asked for. -/
  | nothing
  | unknownCommand (name : String)
  | unexpected (argument : String)
  /-- An option that takes no value has one. -/
  | unexpectedValue (value option : String)
  /-- A file is missing. -/
  | missing (parameter : String)
  /-- A file has an empty name. -/
  | emptyValue (parameter : String)
deriving DecidableEq, Repr, Inhabited

/-- The wording of an error; asking for nothing is answered by the usage alone. -/
def UsageError.message? : UsageError → Option String
  | nothing => none
  | unknownCommand name => some ("unrecognized subcommand '" ++ name ++ "'")
  | unexpected argument => some ("unexpected argument '" ++ argument ++ "' found")
  | unexpectedValue value option =>
    some ("unexpected value '" ++ value ++ "' for '" ++ option ++ "' found; no more were expected")
  | missing parameter =>
    some ("the following required arguments were not provided:\n  " ++ parameter)
  | emptyValue parameter =>
    some ("a value is required for '" ++ parameter ++ "' but none was supplied")

/-- An argument by its form. -/
inductive Form where
  /-- What ends the options. -/
  | divider
  | long (name : String) (value? : Option String)
  /-- Short options; the first one counts. -/
  | short (letter : Char)
  | plain
deriving DecidableEq, Repr

/-- The form of an argument. -/
def formOf (argument : String) : Form :=
  match argument.toList with
  | ['-', '-'] => .divider
  | '-' :: '-' :: rest =>
    match rest.span (· != '=') with
    | (name, _ :: value) => .long (String.ofList name) (some (String.ofList value))
    | (name, []) => .long (String.ofList name) none
  | '-' :: c :: _ => .short c
  | _ => .plain

/-- What a command takes: the name of its files, and whether it takes several. -/
structure Parameter where
  name : String
  limit? : Option Nat
deriving DecidableEq, Repr

/-- Why files that were read are refused: one of them has an empty name. -/
def refusal? (p : Parameter) (files : List String) : Option UsageError :=
  if files.contains "" then some (.emptyValue p.name) else none

/-- Reads the files of a command; `files` holds those before, and behind a divider everything is a
file. Nothing stands for a wish for help. -/
def readFiles (p : Parameter) (divided : Bool) (files : List String) :
    List String → Except UsageError (Option (List String))
  | [] =>
    if files.isEmpty && p.limit? != some 0 then .error (.missing p.name)
    else
      match refusal? p files with
      | some e => .error e
      | none => .ok (some files)
  | a :: rest =>
    let helped : Except UsageError (Option (List String)) :=
      match refusal? p files with
      | some e => .error e
      | none => .ok none
    match if divided then .plain else formOf a with
    | .divider => readFiles p true files rest
    | .long "help" none => helped
    | .long "help" (some value) => .error (.unexpectedValue value "--help")
    | .long name _ => .error (.unexpected ("--" ++ name))
    | .short 'h' => helped
    | .short c => .error (.unexpected ("-" ++ String.singleton c))
    | .plain =>
      if p.limit?.any (· ≤ files.length) then .error (.unexpected a)
      else readFiles p divided (files ++ [a]) rest

/-- Reads the files of a command and makes an action of them. -/
def readCommand (c : Command) (p : Parameter) (arguments : List String)
    (action : List String → Action) : Except UsageError Action :=
  (readFiles p false [] arguments).map fun
    | some files => action files
    | none => .help (some c)

/-- Reads what help is asked on. Commands have no commands of their own. -/
def readTopic : List String → Except UsageError Action
  | [] => .ok (.help none)
  | name :: rest =>
    match Command.ofName? name, rest with
    | none, _ => .error (.unknownCommand name)
    | some c, [] => .ok (.help (some c))
    | some _, other :: _ => .error (.unknownCommand other)

/-- Reads the arguments of a command. -/
def Command.read (c : Command) (arguments : List String) : Except UsageError Action :=
  match c with
  | lsp => readCommand c ⟨"", some 0⟩ arguments fun _ => .serve
  | check => readCommand c ⟨"<FILES>...", none⟩ arguments .check
  | outline => readCommand c ⟨"<FILE>", some 1⟩ arguments fun files => .outline (files.headD "")
  | schema => readCommand c ⟨"<SCHEMA>", some 1⟩ arguments fun files => .schema (files.headD "")
  | help => readTopic arguments

/-- Reads the arguments of the program. -/
def readArguments : List String → Except UsageError Action
  | [] => .error .nothing
  | a :: rest =>
    match formOf a with
    | .divider =>
      match rest with
      | [] => .error .nothing
      | name :: _ =>
        .error (if (Command.ofName? name).isSome then .unexpected name else .unknownCommand name)
    | .long "version" none => .ok .version
    | .long "help" none => .ok (.help none)
    | .long "version" (some value) => .error (.unexpectedValue value "--version")
    | .long "help" (some value) => .error (.unexpectedValue value "--help")
    | .long name _ => .error (.unexpected ("--" ++ name))
    | .short 'V' => .ok .version
    | .short 'h' => .ok (.help none)
    | .short c => .error (.unexpected ("-" ++ String.singleton c))
    | .plain =>
      match Command.ofName? a with
      | some c => c.read rest
      | none => .error (.unknownCommand a)

end PrimitiveDesk.CommandLine
