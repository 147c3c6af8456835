import PrimitiveDesk.Script.Parser
import PrimitiveDesk.Script.Utility

/-!
# Running scripts

`runList` runs statements on a machine. Loops need not end, so that running is bounded by a number
of steps; a script that uses them up counts as asleep.
-/

namespace PrimitiveDesk.Script

open Text

/-! ## Finding programs -/

/-- What a program's name stands for. -/
inductive Found where
  | utility (name : String)
  | shell
  /-- A script in a file, by its text and the path of the file. -/
  | script (text path : String)
deriving Repr, Inhabited

/-- Whether the first line of a script names the shell. -/
def namesShell (firstLine : String) : Bool :=
  let words := ((firstLine.toList.splitOnP isBlank).filter fun w => !w.isEmpty).map fun w =>
    lastStep (String.ofList w)
  match words with
  | "env" :: name :: _ => shellNames.contains name
  | name :: _ => shellNames.contains name
  | [] => false

/-- The script in an executable file. -/
def scriptAt (tree : FileTree) (names : List String) (path : String) : Except SystemError Found :=
  match tree.find names with
  | .error e => .error e
  | .ok (.folder _) => .error .permissionDenied
  | .ok (.file content executable) =>
    if !executable then .error .permissionDenied
    else
      let text := decodeLossy content
      match text.toList with
      | '#' :: '!' :: rest =>
        if namesShell (String.ofList (rest.takeWhile (· != '\n'))) then .ok (.script text path)
        else .error .notFound
      | _ => .error .badFormat

/-- A program that every machine has. -/
def builtIn? (name : String) : Option Found :=
  if shellNames.contains name then some .shell
  else if utilityNames.contains name then some (.utility name)
  else none

/-- A program as it runs outside of the shell. -/
def Found.outside : Found → Found
  | utility "echo" => utility "/bin/echo"
  | f => f

/-- The first program that was found. A file that may not be run counts only if nothing else is
found. -/
def firstFound (denied : Bool) : List (Except SystemError Found) → Except SystemError Found
  | [] => .error (if denied then .permissionDenied else .notFound)
  | .ok f :: _ => .ok f
  | .error .permissionDenied :: rest => firstFound true rest
  | .error .notFound :: rest => firstFound denied rest
  | .error .notFolder :: rest => firstFound denied rest
  | .error e :: _ => .error e

/-- Finds a program by its path, or by its name in the search path and among the programs that every
machine has. -/
def findProgram (tree : FileTree) (folder : Path) (searchPath : List Path) (program : String) :
    Except SystemError Found :=
  if program.isEmpty then .error .notFound
  else if program.contains '/' then
    if FileTree.pathLimit < program.utf8ByteSize then .error .nameTooLong else
    match scriptAt tree (FileTree.namesOf folder (.ofText program)) program with
    | .error .notFound =>
      let system := ["/bin/", "/usr/bin/"].any fun p => program.startsWith p
      match if system then builtIn? (lastStep program) else none with
      | some f => .ok f.outside
      | none => .error .notFound
    | r => r
  else if FileTree.nameLimit < program.utf8ByteSize then .error .nameTooLong
  else
    let places := searchPath.map fun p => p.joinText program
    firstFound false ((places.map fun p => scriptAt tree (FileTree.namesAt p) p.text) ++
      (builtIn? program).toList.map .ok)

/-! ## Sums -/

mutual

/-- Reads a sum. -/
def readSum (value : String → Int) : Nat → List Char → Int × List Char
  | 0, cs => (0, cs)
  | fuel + 1, cs =>
    let (n, cs) := readProduct value fuel cs
    moreSum value fuel n cs

/-- Reads further terms of a sum. -/
def moreSum (value : String → Int) : Nat → Int → List Char → Int × List Char
  | 0, n, cs => (n, cs)
  | fuel + 1, n, cs =>
    match cs with
    | '+' :: cs =>
      let (k, cs) := readProduct value fuel cs
      moreSum value fuel (n + k) cs
    | '-' :: cs =>
      let (k, cs) := readProduct value fuel cs
      moreSum value fuel (n - k) cs
    | cs => (n, cs)

/-- Reads a product. -/
def readProduct (value : String → Int) : Nat → List Char → Int × List Char
  | 0, cs => (0, cs)
  | fuel + 1, cs =>
    let (n, cs) := readFactor value fuel cs
    moreProduct value fuel n cs

/-- Reads further factors of a product. -/
def moreProduct (value : String → Int) : Nat → Int → List Char → Int × List Char
  | 0, n, cs => (n, cs)
  | fuel + 1, n, cs =>
    match cs with
    | '*' :: cs =>
      let (k, cs) := readFactor value fuel cs
      moreProduct value fuel (n * k) cs
    | '/' :: cs =>
      let (k, cs) := readFactor value fuel cs
      moreProduct value fuel (n.tdiv k) cs
    | '%' :: cs =>
      let (k, cs) := readFactor value fuel cs
      moreProduct value fuel (n.tmod k) cs
    | cs => (n, cs)

/-- Reads a number, a name or a sum in brackets. -/
def readFactor (value : String → Int) : Nat → List Char → Int × List Char
  | 0, cs => (0, cs)
  | fuel + 1, cs =>
    match cs with
    | '-' :: cs =>
      let (n, cs) := readFactor value fuel cs
      (-n, cs)
    | '(' :: cs =>
      let (n, cs) := readSum value fuel cs
      (n, cs.drop 1)
    | cs =>
      let name := cs.takeWhile isParameterChar
      let rest := cs.drop name.length
      if name.all isAsciiDigit then ((readDigits? 10 0 name).getD 0, rest)
      else (value (String.ofList name), rest)

end

/-- The value of a sum without blanks. -/
def sumValue (value : String → Int) (text : String) : Int :=
  let cs := text.toList.filter fun c => !isBlank c
  (readSum value (4 * cs.length + 4) cs).1

/-! ## Parameters -/

/-- The value of a parameter. -/
def Machine.parameter (m : Machine) (name : String) : String :=
  match name with
  | "#" => decimal m.arguments.length
  | "?" => decimal m.status
  | "$" => "1"
  | "!" => ""
  | "-" => ""
  | "@" => String.intercalate " " m.arguments
  | "*" => String.intercalate " " m.arguments
  | "0" => m.name
  | "PWD" => m.folder.text
  | name =>
    match if name.toList.all isAsciiDigit then readNat? 10 name.toList else none with
    | some n => m.arguments[n - 1]?.getD ""
    | none => (Assoc.find? m.bindings name).getD ""

/-- Sets a variable. -/
def Machine.setVariable (m : Machine) (name value : String) : Machine :=
  { m with bindings := Assoc.set m.bindings name value }

/-- Lets programs get variables. -/
def Machine.exports (m : Machine) (names : List String) : Machine :=
  { m with exported := m.exported ++ names }

/-- How messages of the shell start. -/
def Machine.origin (m : Machine) (line : Nat) : String :=
  m.name ++ ": " ++ decimal line ++ ": "

/-- The channel that a path of a device stands for. -/
def Machine.device? (m : Machine) (path : String) : Option Channel :=
  match path with
  | "/dev/null" => some .nothing
  | "/dev/stdout" => some (m.channel 1)
  | "/dev/stderr" => some (m.channel 2)
  | _ => none

/-- Fields of arguments while a word is expanded: those that are complete, latest first, and the one
that goes on. -/
structure Fields where
  complete : List String
  current? : Option String

namespace Fields

/-- Adds text to the field that goes on. -/
def add (f : Fields) (s : String) : Fields :=
  { f with current? := some (f.current?.getD "" ++ s) }

/-- Ends the field that goes on. -/
def close (f : Fields) : Fields :=
  match f.current? with
  | some s => ⟨s :: f.complete, none⟩
  | none => f

/-- Adds text that blanks split. -/
def addSplit (f : Fields) : List Char → Fields
  | [] => f
  | c :: cs => if isBlank c then (f.close).addSplit cs else (f.add (String.singleton c)).addSplit cs

/-- Adds several arguments as fields of their own. -/
def addAll (f : Fields) : List String → Fields
  | [] => f
  | [a] => f.add a
  | a :: rest => ((f.add a).close).addAll rest

/-- All fields in order. -/
def toList (f : Fields) : List String :=
  f.close.complete.reverse

end Fields

/-- The pattern of a word that is matched against file names. -/
def globPattern? : Word → Option String
  | [.text s false] => if s.contains '*' || s.contains '?' then some s else none
  | _ => none

/-- The file names in the folder that match a pattern. -/
def globNames (m : Machine) (pattern : String) : List String :=
  match listing m "." (pattern.startsWith ".") with
  | .ok names => names.filter fun n => matchesPattern pattern.toList n.toList
  | .error _ => []

/-- What an evaluation gives: a value, or how the script goes on without it. -/
abbrev Eval (α : Type) := Except (Flow × Machine) (α × Machine)

/-- A text without the line breaks at its end. -/
def dropBreaks (s : String) : String :=
  String.ofList ((s.toList.reverse.dropWhile (· == '\n')).reverse)

/-- Distributes the words of a line over variables; the last one takes the rest. -/
def assignWords (m : Machine) : List String → List Char → Machine
  | [], _ => m
  | [v], cs => m.setVariable v (String.ofList (trim cs))
  | v :: vs, cs =>
    let cs := trimStart cs
    let word := cs.takeWhile fun c => !isBlank c
    assignWords (m.setVariable v (String.ofList word)) vs (cs.drop word.length)

/-- Removes backslashes from a line that is not read raw. -/
def unescapeLine : List Char → List Char
  | '\\' :: c :: cs => c :: unescapeLine cs
  | c :: cs => c :: unescapeLine cs
  | [] => []

/-- Reads a line into variables. -/
def runRead (args : List String) (m : Machine) : Flow × Machine :=
  let (options, names) := splitOptions args
  let raw := options.any fun o => o.contains 'r'
  let names := if names.isEmpty then ["REPLY"] else names
  match m.readLine with
  | (.wait, m) => (.awaitInput, m)
  | (.ended, m) => (assignWords m names []).done 1
  | (.line l complete, m) =>
    let text := (decodeLossy l).toList
    (assignWords m names (if raw then text else unescapeLine text)).done (if complete then 0 else 1)

/-- The number of a signal. -/
def signalNumber (s : String) : Nat :=
  match String.ofList (s.toList.dropWhile (· == '-')) with
  | "HUP" => 1
  | "INT" => 2
  | "QUIT" => 3
  | "ABRT" => 6
  | "KILL" => 9
  | "USR1" => 10
  | "SEGV" => 11
  | "USR2" => 12
  | "PIPE" => 13
  | "ALRM" => 14
  | "TERM" => 15
  | n => (readNat? 10 n.toList).getD 15

/-- What a shell tells about a program that a signal ended. -/
def signalText : Nat → String
  | 1 => "Hangup"
  | 3 => "Quit"
  | 6 => "Aborted"
  | 9 => "Killed"
  | 10 => "User defined signal 1"
  | 11 => "Segmentation fault"
  | 12 => "User defined signal 2"
  | 14 => "Alarm clock"
  | 15 => "Terminated"
  | _ => ""

/-- Sends a signal; only the script itself can be reached. -/
def runKill (args : List String) (m : Machine) : Flow × Machine :=
  let (signal, targets) := match args with
    | "-s" :: s :: rest => (signalNumber s, rest)
    | a :: rest => if a.startsWith "-" then (signalNumber a, rest) else (15, a :: rest)
    | [] => (15, [])
  if targets.contains "1" then
    (if signal == 0 then m.done 0 else (.killed signal, m))
  else m.done 1

/-- The status of a script that stops as told. -/
def statusOf (flow : Flow) (m : Machine) : Option Nat :=
  match flow with
  | .next => some m.status
  | .breakLoop _ => some m.status
  | .nextRound _ => some m.status
  | .leave n => some n
  | .giveBack n => some n
  | .killed s => some (128 + s)
  | .awaitInput => none
  | .asleep => none

mutual

/-- Expands the pieces of a word to fields. -/
def expandPieces : Nat → Fields → Word → Machine → Eval Fields
  | 0, _, _, m => .error (.asleep, m)
  | _ + 1, f, [], m => .ok (f, m)
  | fuel + 1, f, .text s _ :: rest, m => expandPieces fuel (f.add s) rest m
  | fuel + 1, f, .parameter "@" _ true :: rest, m => expandPieces fuel (f.addAll m.arguments) rest m
  | fuel + 1, f, .parameter name fallback? quoted :: rest, m =>
    let value := m.parameter name
    match if value.isEmpty then fallback? else none with
    | some pieces => expandPieces fuel f (pieces ++ rest) m
    | none =>
      expandPieces fuel (if quoted then f.add value else f.addSplit value.toList) rest m
  | fuel + 1, f, .assigned name pieces quoted :: rest, m =>
    match keepValue fuel name pieces m with
    | .error e => .error e
    | .ok (value, m) =>
      expandPieces fuel (if quoted then f.add value else f.addSplit value.toList) rest m
  | fuel + 1, f, .size name :: rest, m =>
    expandPieces fuel (f.add (decimal (m.parameter name).length)) rest m
  | fuel + 1, f, .output body quoted :: rest, m =>
    match capture fuel body m with
    | .error e => .error e
    | .ok (text, m) =>
      expandPieces fuel (if quoted then f.add text else f.addSplit text.toList) rest m
  | fuel + 1, f, .number sum :: rest, m =>
    match expandText fuel sum m with
    | .error e => .error e
    | .ok (text, m) =>
      let value := sumValue (fun n => numberOf (m.parameter n)) text
      expandPieces fuel (f.add (decimalInt value)) rest m

/-- Expands a word to one text, which nothing splits. -/
def expandText : Nat → Word → Machine → Eval String
  | 0, _, m => .error (.asleep, m)
  | _ + 1, [], m => .ok ("", m)
  | fuel + 1, .text s _ :: rest, m => (expandText fuel rest m).map fun r => (s ++ r.1, r.2)
  | fuel + 1, .parameter name fallback? _ :: rest, m =>
    let value := m.parameter name
    match if value.isEmpty then fallback? else none with
    | some pieces => expandText fuel (pieces ++ rest) m
    | none => (expandText fuel rest m).map fun r => (value ++ r.1, r.2)
  | fuel + 1, .assigned name pieces _ :: rest, m =>
    match keepValue fuel name pieces m with
    | .error e => .error e
    | .ok (value, m) => (expandText fuel rest m).map fun r => (value ++ r.1, r.2)
  | fuel + 1, .size name :: rest, m =>
    (expandText fuel rest m).map fun r => (decimal (m.parameter name).length ++ r.1, r.2)
  | fuel + 1, .output body _ :: rest, m =>
    match capture fuel body m with
    | .error e => .error e
    | .ok (text, m) => (expandText fuel rest m).map fun r => (text ++ r.1, r.2)
  | fuel + 1, .number sum :: rest, m =>
    match expandText fuel sum m with
    | .error e => .error e
    | .ok (text, m) =>
      let value := sumValue (fun n => numberOf (m.parameter n)) text
      (expandText fuel rest m).map fun r => (decimalInt value ++ r.1, r.2)

/-- The value of a parameter, which is set if it is unset or empty. -/
def keepValue : Nat → String → Word → Machine → Eval String
  | 0, _, _, m => .error (.asleep, m)
  | fuel + 1, name, pieces, m =>
    let value := m.parameter name
    if value.isEmpty then
      (expandText fuel pieces m).map fun r => (r.1, r.2.setVariable name r.1)
    else .ok (value, m)

/-- What statements print, without the line breaks at its end. -/
def capture : Nat → List Statement → Machine → Eval String
  | 0, _, m => .error (.asleep, m)
  | fuel + 1, body, m =>
    let (id, m) := m.newStore []
    match runChild fuel body (m.setChannel 1 (.store id)) with
    | (.next, m') =>
      .ok (dropBreaks (decodeLossy (m'.store id)), { m' with descriptors := m.descriptors })
    | r => .error r

/-- Expands words to arguments. -/
def expandWords : Nat → List Word → Machine → Eval (List String)
  | 0, _, m => .error (.asleep, m)
  | _ + 1, [], m => .ok ([], m)
  | fuel + 1, w :: ws, m =>
    let first : Eval (List String) :=
      match (globPattern? w).map (globNames m) with
      | some (n :: ns) => .ok (n :: ns, m)
      | _ => (expandPieces fuel ⟨[], none⟩ w m).map fun r => (r.1.toList, r.2)
    match first with
    | .error e => .error e
    | .ok (fields, m) => (expandWords fuel ws m).map fun r => (fields ++ r.1, r.2)

/-- Expands the values of assignments and sets them. -/
def assignAll : Nat → List (String × Word) → Machine → Eval Unit
  | 0, _, m => .error (.asleep, m)
  | _ + 1, [], m => .ok ((), m)
  | fuel + 1, (name, w) :: rest, m =>
    match expandText fuel w m with
    | .error e => .error e
    | .ok (value, m) => assignAll fuel rest (m.setVariable name value)

/-- Opens redirections; one that fails is told, and gives false. -/
def redirectAll : Nat → Nat → List Redirect → Machine → Eval Bool
  | 0, _, _, m => .error (.asleep, m)
  | _ + 1, _, [], m => .ok (true, m)
  | fuel + 1, line, .mk fd mode target :: rest, m =>
    match expandText fuel target m with
    | .error e => .error e
    | .ok (path, m) =>
      let origin := m.origin line
      match mode with
      | .duplicate =>
        let channel :=
          if path == "-" then .nothing else m.channel ((readNat? 10 path.toList).getD 0)
        redirectAll fuel line rest (m.setChannel fd channel)
      | mode =>
        match m.device? path with
        | some channel => redirectAll fuel line rest (m.setChannel fd channel)
        | none =>
          match mode with
          | .read =>
            match m.readFile path with
            | .ok content =>
              let (id, m) := m.newStore content
              redirectAll fuel line rest (m.setChannel fd (.store id))
            | .error _ =>
              .ok (false, (m.complain (origin ++ "cannot open " ++ path ++ ": No such file")))
          | mode =>
            let effect :=
              if mode == .write then Effect.write (m.names path) [] else .append (m.names path) []
            match m.change effect with
            | .ok m => redirectAll fuel line rest (m.setChannel fd (.file (m.names path)))
            | .error e =>
              let reason := if e == .notFound then "Directory nonexistent" else e.text
              .ok (false, m.complain (origin ++ "cannot create " ++ path ++ ": " ++ reason))

/-- Runs something with redirections, which end with it. -/
def withRedirects : Nat → Nat → List Redirect → Run → Run
  | 0, _, _, _, m => (.asleep, m)
  | fuel + 1, line, redirects, act, m =>
    match redirectAll fuel line redirects m with
    | .error e => e
    | .ok (false, m') => { m' with descriptors := m.descriptors }.done 2
    | .ok (true, m') =>
      let (flow, after) := act m'
      (flow, { after with descriptors := m.descriptors })

/-- Runs statements as a shell of their own, which does not change the variables around. -/
def runChild : Nat → List Statement → Machine → Flow × Machine
  | 0, _, m => (.asleep, m)
  | fuel + 1, body, m =>
    let (flow, after) := runList fuel false body m
    match flow with
    | .killed s => (.killed s, after)
    | flow =>
      match statusOf flow after with
      | none => (flow, after)
      | some status => (m.resume after).done status

/-- Runs the text of a script as a process of its own. -/
def runText : Nat → String → String → List String → Machine → Flow × Machine
  | 0, _, _, _, m => (.asleep, m)
  | fuel + 1, text, name, args, m =>
    match parse text with
    | none => m.fail (name ++ ": 1: Syntax error") 2
    | some body =>
      let given := m.bindings.filter fun v => m.exported.contains v.1
      let (flow, after) := runChild fuel body
        { m with name, arguments := args, bindings := given, functions := [], strict := false }
      (flow, m.resume after)

/-- Runs the shell with arguments. -/
def runShell : Nat → List String → Machine → Flow × Machine
  | 0, _, m => (.asleep, m)
  | fuel + 1, args, m =>
    match args with
    | "-c" :: text :: rest => runText fuel text (rest.headD "sh") rest.tail m
    | "-e" :: rest => runShell fuel rest m
    | "-ec" :: text :: rest =>
      runText fuel ("set -e\n" ++ text) (rest.headD "sh") rest.tail m
    | path :: rest =>
      match m.tree.read (m.names path) with
      | .ok content => runText fuel (decodeLossy content) path rest m
      | .error _ => m.fail ("sh: 0: cannot open " ++ path ++ ": No such file") 2
    | [] => (.awaitInput, m)

/-- Runs a program that is not part of the shell. -/
def runFound : Nat → Found → List String → Machine → Flow × Machine
  | 0, _, _, m => (.asleep, m)
  | fuel + 1, found, args, m =>
    match found with
    | .utility name => (runUtility name args m).getD (m.done 127)
    | .shell => runShell fuel args m
    | .script text path => runText fuel text path args m

/-- Finds a program and runs it; a file that names no interpreter is run by the shell. -/
def runProgram : Nat → Nat → String → List String → Machine → Flow × Machine
  | 0, _, _, _, m => (.asleep, m)
  | fuel + 1, line, program, args, m =>
    match findProgram m.tree m.folder m.searchPath program with
    | .ok found =>
      match runFound fuel found args m with
      | (.killed s, after) => (m.resume after).fail (signalText s) (128 + s)
      | r => r
    | .error .badFormat =>
      match m.tree.readText (m.names program) with
      | .ok text => runText fuel text program args m
      | .error _ => m.done 126
    | .error e =>
      let reason := if e == .notFound then "not found" else e.text
      m.fail (m.origin line ++ program ++ ": " ++ reason)
        (if e == .notFound then 127 else 126)

/-- Runs a command. -/
def runWords : Nat → Nat → String → List String → Machine → Flow × Machine
  | 0, _, _, _, m => (.asleep, m)
  | fuel + 1, line, program, args, m =>
    match program with
    | "exit" =>
      match args with
      | [] => (.leave m.status, m)
      | n :: _ =>
        if n.toList.all isAsciiDigit then (.leave ((numberOf n).toNat % 256), m)
        else (.leave 2, m.complain (m.origin line ++ "exit: Illegal number: " ++ n))
    | "return" =>
      (.giveBack (match args with | n :: _ => (numberOf n).toNat % 256 | [] => m.status), m)
    | "break" => (.breakLoop ((args.head?.map fun n => (numberOf n).toNat).getD 1), m)
    | "continue" => (.nextRound ((args.head?.map fun n => (numberOf n).toNat).getD 1), m)
    | "read" => runRead args m
    | "kill" => runKill args m
    | "shift" =>
      let count := (args.head?.map fun n => (numberOf n).toNat).getD 1
      if m.arguments.length < count then
        (.leave 2, m.complain (m.origin line ++ "shift: can't shift that many"))
      else { m with arguments := m.arguments.drop count }.done 0
    | "set" =>
      match args with
      | "-e" :: _ => { m with strict := true }.done 0
      | "+e" :: _ => { m with strict := false }.done 0
      | "--" :: rest => { m with arguments := rest }.done 0
      | _ => m.done 0
    | "export" =>
      (args.foldl (fun m a =>
        match a.splitOn "=" with
        | name :: v :: vs => (m.setVariable name (String.intercalate "=" (v :: vs))).exports [name]
        | _ => m.exports [a]) m).done 0
    | "unset" => { m with bindings := args.foldl Assoc.erase m.bindings }.done 0
    | "trap" => m.done 0
    | "wait" => m.done 0
    | "umask" => m.done 0
    | "cd" =>
      let path := args.headD "/"
      match m.tree.find (m.names path) with
      | .ok (.folder _) => { m with folder := ⟨true, m.names path⟩ }.done 0
      | _ => m.fail (m.origin line ++ "cd: can't cd to " ++ path) 2
    | "eval" =>
      match parse (String.intercalate " " args) with
      | some body => runList fuel false body m
      | none => m.done 2
    | "." =>
      match m.tree.readText (m.names (args.headD "")) with
      | .ok text =>
        match parse text with
        | some body => runList fuel false body m
        | none => m.done 2
      | .error _ =>
        let message := ".: cannot open " ++ args.headD "" ++ ": No such file"
        (.leave 2, m.complain (m.origin line ++ message))
    | "command" =>
      match args with
      | p :: rest => runWords fuel line p rest m
      | [] => m.done 0
    | "env" =>
      match args with
      | p :: rest =>
        match p.splitOn "=" with
        | name :: v :: vs =>
          let inside := (m.setVariable name (String.intercalate "=" (v :: vs))).exports [name]
          let (flow, after) := runWords fuel line "env" rest inside
          (flow, m.resume after)
        | _ => runWords fuel line p rest m
      | [] => m.done 0
    | "exec" =>
      match args with
      | [] => m.done 0
      | p :: rest =>
        match runWords fuel line p rest m with
        | (.next, m) => (.leave m.status, m)
        | r => r
    | ":" => m.done 0
    | program =>
      match Assoc.find? m.functions program with
      | some body =>
        match runList fuel false body { m with arguments := args } with
        | (.giveBack n, after) => { after with arguments := m.arguments }.done n
        | (flow, after) => (flow, { after with arguments := m.arguments })
      | none => runProgram fuel line program args m

/-- Runs a simple command. Redirections of `exec` stay. -/
def runSimple : Nat → Nat → List (String × Word) → List Word → List Redirect → Run
  | 0, _, _, _, _, m => (.asleep, m)
  | fuel + 1, line, assignments, words, redirects, m =>
    match expandWords fuel words { m with status := if words.isEmpty then 0 else m.status } with
    | .error e => e
    | .ok (args, m) =>
      match args with
      | [] =>
        match assignAll fuel assignments m with
        | .error e => e
        | .ok (_, m) => withRedirects fuel line redirects (fun m => m.done m.status) m
      | "exec" :: rest =>
        match redirectAll fuel line redirects m with
        | .error e => e
        | .ok (false, m) => (.leave 2, m)
        | .ok (true, m) =>
          let m := { m with inputOpen := m.descriptors.any fun d => d.2 == .input }
          runWords fuel line "exec" rest m
      | program :: rest =>
        match assignAll fuel assignments m with
        | .error e => e
        | .ok (_, inside) =>
          let inside := inside.exports (assignments.map (·.1))
          let act := runWords fuel line program rest
          let (flow, after) := withRedirects fuel line redirects act inside
          (flow, if assignments.isEmpty then after
            else { after with bindings := m.bindings, exported := m.exported })

/-- Runs the parts of a pipe, each on what the one before printed. -/
def runPipe : Nat → List Statement → Machine → Flow × Machine
  | 0, _, m => (.asleep, m)
  | _ + 1, [], m => m.done 0
  | fuel + 1, [last], m => runChild fuel [last] m
  | fuel + 1, part :: rest, m =>
    let (id, m) := m.newStore []
    match runChild fuel [part] (m.setChannel 1 (.store id)) with
    | (.next, after) =>
      let inside := { after with descriptors := m.descriptors }.setChannel 0 (.store id)
      let (flow, last) := runPipe fuel rest inside
      (flow, { last with descriptors := m.descriptors })
    | r => r

/-- Repeats a body as long as a test succeeds or fails as asked. -/
def runLoop : Nat → Bool → List Statement → List Statement → Machine → Flow × Machine
  | 0, _, _, _, m => (.asleep, m)
  | fuel + 1, whileSuccess, test, body, m =>
    match runList fuel true test m with
    | (.next, tested) =>
      if (tested.status == 0) == whileSuccess then
        match runList fuel false body tested with
        | (.next, m) => runLoop fuel whileSuccess test body m
        | (.breakLoop n, m) => if n ≤ 1 then m.done 0 else (.breakLoop (n - 1), m)
        | (.nextRound n, m) =>
          if n ≤ 1 then runLoop fuel whileSuccess test body m else (.nextRound (n - 1), m)
        | r => r
      else tested.done 0
    | r => r

/-- Runs a body for each of several values. -/
def runEach : Nat → String → List String → List Statement → Machine → Flow × Machine
  | 0, _, _, _, m => (.asleep, m)
  | _ + 1, _, [], _, m => (.next, m)
  | fuel + 1, name, v :: vs, body, m =>
    match runList fuel false body (m.setVariable name v) with
    | (.next, m) => runEach fuel name vs body m
    | (.breakLoop n, m) => if n ≤ 1 then m.done 0 else (.breakLoop (n - 1), m)
    | (.nextRound n, m) => if n ≤ 1 then runEach fuel name vs body m else (.nextRound (n - 1), m)
    | r => r

/-- Runs the body of the first arm that a text matches. -/
def runArms : Nat → String → List (List Word × List Statement) → Machine → Flow × Machine
  | 0, _, _, m => (.asleep, m)
  | _ + 1, _, [], m => m.done 0
  | fuel + 1, text, (patterns, body) :: rest, m =>
    match expandPatterns fuel patterns m with
    | .error e => e
    | .ok (patterns, m) =>
      if patterns.any fun p => matchesPattern p.toList text.toList then runList fuel false body m
      else runArms fuel text rest m

/-- Expands patterns. -/
def expandPatterns : Nat → List Word → Machine → Eval (List String)
  | 0, _, m => .error (.asleep, m)
  | _ + 1, [], m => .ok ([], m)
  | fuel + 1, w :: ws, m =>
    match expandText fuel w m with
    | .error e => .error e
    | .ok (p, m) => (expandPatterns fuel ws m).map fun r => (p :: r.1, r.2)

/-- Runs a statement; `checked` tells that its failure is looked at. -/
def runStatement : Nat → Bool → Statement → Machine → Flow × Machine
  | 0, _, _, m => (.asleep, m)
  | fuel + 1, checked, st, m =>
    let strictly (r : Flow × Machine) : Flow × Machine :=
      match r with
      | (.next, m) =>
        if m.strict && !checked && m.status != 0 then (.leave m.status, m) else (.next, m)
      | r => r
    match st with
    | .simple line assignments words redirects =>
      strictly (runSimple fuel line assignments words redirects m)
    | .pipe negated parts =>
      match (match parts with
        | [part] => runStatement fuel true part m
        | parts => runPipe fuel parts m) with
      | (.next, m) =>
        if negated then m.done (if m.status == 0 then 1 else 0) else strictly (.next, m)
      | r => r
    | .both first second =>
      match runStatement fuel true first m with
      | (.next, m) => if m.status == 0 then runStatement fuel checked second m else (.next, m)
      | r => r
    | .either first second =>
      match runStatement fuel true first m with
      | (.next, m) => if m.status == 0 then (.next, m) else runStatement fuel checked second m
      | r => r
    | .background body =>
      match runChild fuel [body] (m.setChannel 0 .nothing) with
      | (.next, after) => { after with descriptors := m.descriptors }.done 0
      | (_, _) => m.done 0
    | .group body redirects => withRedirects fuel 1 redirects (runList fuel checked body) m
    | .subshell body redirects => strictly (withRedirects fuel 1 redirects (runChild fuel body) m)
    | .choose test yes no redirects =>
      withRedirects fuel 1 redirects (fun m =>
        match runList fuel true test m with
        | (.next, m) =>
          if m.status == 0 then runList fuel checked yes m
          else if no.isEmpty then m.done 0
          else runList fuel checked no m
        | r => r) m
    | .loop whileSuccess test body redirects =>
      withRedirects fuel 1 redirects (runLoop fuel whileSuccess test body) m
    | .each name words body redirects =>
      match expandWords fuel words m with
      | .error e => e
      | .ok (values, m) =>
        withRedirects fuel 1 redirects (runEach fuel name values body) { m with status := 0 }
    | .define name body => { m with functions := Assoc.set m.functions name body }.done 0
    | .match_ word arms =>
      match expandText fuel word m with
      | .error e => e
      | .ok (text, m) => runArms fuel text arms m

/-- Runs statements one after another. -/
def runList : Nat → Bool → List Statement → Machine → Flow × Machine
  | 0, _, _, m => (.asleep, m)
  | _ + 1, _, [], m => (.next, m)
  | fuel + 1, checked, st :: rest, m =>
    match runStatement fuel checked st m with
    | (.next, m) => runList fuel checked rest m
    | r => r

end

end PrimitiveDesk.Script
