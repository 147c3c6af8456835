import PrimitiveDesk.Files.Tree
import PrimitiveDesk.Script.Basic
import PrimitiveDesk.Text.Blank
import PrimitiveDesk.Text.Digit

/-!
# The machine that runs scripts

A running script sees a tree of files, reads its input and writes two outputs. What it does is a
function of the input that it has got so far: when it needs more input, or sleeps, it is suspended,
and with more input it goes on where it was, so that all it did before stays the same. Its changes
of files are kept as a list, so that only new ones have to be carried out.
-/

namespace PrimitiveDesk.Script

/-- A change of files. -/
inductive Effect where
  | write (names : List String) (content : Bytes)
  | append (names : List String) (content : Bytes)
  | makeFolder (names : List String)
  | makeFolders (names : List String)
  | makeExecutable (names : List String)
  | remove (names : List String)
deriving DecidableEq, Repr, Inhabited

/-- Carries out a change. -/
def Effect.apply (tree : FileTree) : Effect → Except SystemError FileTree
  | write names content => tree.write names content
  | append names content => tree.append names content
  | makeFolder names => tree.makeFolder names
  | makeFolders names => tree.makeFolders names
  | makeExecutable names => tree.makeExecutable names
  | remove names => tree.remove names

/-- Carries out changes one after another; those that are refused are left out. -/
def Effect.applyAll (tree : FileTree) (effects : List Effect) : FileTree :=
  effects.foldl (fun t e => (e.apply t).toOption.getD t) tree

/-- What a descriptor refers to. -/
inductive Channel where
  /-- The input of the whole process. -/
  | input
  /-- The output of the whole process. -/
  | output
  /-- The error output of the whole process. -/
  | error
  | file (names : List String)
  /-- A store of bytes by its number. -/
  | store (id : Nat)
  | nothing
deriving DecidableEq, Repr, Inhabited

/-- Why a script does not go on with its next statement. -/
inductive Flow where
  | next
  /-- It needs more input. -/
  | awaitInput
  /-- It sleeps. -/
  | asleep
  | leave (status : Nat)
  /-- It leaves a function. -/
  | giveBack (status : Nat)
  | killed (signal : Nat)
  | breakLoop (levels : Nat)
  | nextRound (levels : Nat)
deriving DecidableEq, Repr, Inhabited

/-- The state of a running script. -/
structure Machine where
  tree : FileTree
  /-- The changes of files, latest first. -/
  effects : List Effect
  folder : Path
  /-- Folders in which programs are looked up first. -/
  searchPath : List Path
  name : String
  arguments : List String
  /-- The variables with their values. -/
  bindings : List (String × String)
  /-- The names of the variables that programs get. -/
  exported : List String
  functions : List (String × List Statement)
  status : Nat
  /-- The input that is not read yet. -/
  input : Bytes
  /-- Whether no more input follows. -/
  inputEnded : Bool
  /-- Whether the input can still be read. -/
  inputOpen : Bool
  /-- How often it may still sleep. -/
  naps : Nat
  /-- What was written, latest first. -/
  out : List Bytes
  err : List Bytes
  stores : List Bytes
  descriptors : List (Nat × Channel)
  /-- Whether the script ends with the first failure. -/
  strict : Bool
deriving Inhabited

/-- What a function of a machine gives: how to go on, and the machine afterwards. -/
abbrev Run := Machine → Flow × Machine

namespace Machine

/-- The channel of a descriptor. -/
def channel (m : Machine) (descriptor : Nat) : Channel :=
  (m.descriptors.lookup descriptor).getD .nothing

/-- Sets the channel of a descriptor. -/
def setChannel (m : Machine) (descriptor : Nat) (c : Channel) : Machine :=
  { m with descriptors := (descriptor, c) :: m.descriptors.filter fun d => d.1 != descriptor }

/-- Carries out a change of files. -/
def change (m : Machine) (e : Effect) : Except SystemError Machine :=
  match e.apply m.tree with
  | .ok tree => .ok { m with tree, effects := e :: m.effects }
  | .error e => .error e

/-- A new store. -/
def newStore (m : Machine) (content : Bytes) : Nat × Machine :=
  (m.stores.length, { m with stores := m.stores ++ [content] })

/-- The content of a store. -/
def store (m : Machine) (id : Nat) : Bytes :=
  m.stores[id]?.getD []

/-- Replaces the content of a store. -/
def setStore (m : Machine) (id : Nat) (content : Bytes) : Machine :=
  { m with stores := m.stores.set id content }

/-- Writes to a channel. -/
def writeTo (m : Machine) (c : Channel) (content : Bytes) : Machine :=
  match c with
  | .output => { m with out := content :: m.out }
  | .error => { m with err := content :: m.err }
  | .file names => (m.change (.append names content)).toOption.getD m
  | .store id => m.setStore id (m.store id ++ content)
  | .input => m
  | .nothing => m

/-- Prints to the output. -/
def print (m : Machine) (content : Bytes) : Machine :=
  m.writeTo (m.channel 1) content

/-- Prints a text to the output. -/
def printText (m : Machine) (s : String) : Machine :=
  m.print (Text.encode s)

/-- Prints a line to the error output. -/
def complain (m : Machine) (s : String) : Machine :=
  m.writeTo (m.channel 2) (Text.encode (s ++ "\n"))

/-- Sets the status of the last command and goes on. -/
def done (m : Machine) (status : Nat) : Flow × Machine :=
  (.next, { m with status })

/-- Complains and goes on with a failure. -/
def fail (m : Machine) (message : String) (status : Nat) : Flow × Machine :=
  (m.complain message).done status

/-- A machine that has done what another one did, in the surroundings of this one. -/
def resume (m after : Machine) : Machine :=
  { after with
    folder := m.folder, name := m.name, arguments := m.arguments, bindings := m.bindings
    exported := m.exported, functions := m.functions, descriptors := m.descriptors
    strict := m.strict }

/-- The names that lead to a path. -/
def names (m : Machine) (path : String) : List String :=
  FileTree.namesOf m.folder (.ofText path)

/-- The content of a file; the null device is an empty one. -/
def readFile (m : Machine) (path : String) : Except SystemError Bytes :=
  if path == "/dev/null" then .ok [] else m.tree.read (m.names path)

/-- Reading a line: the line, with whether it ended with a line break; or nothing at the end of the
input; or a wait for more. -/
inductive LineRead where
  | line (content : Bytes) (complete : Bool)
  | ended
  | wait

/-- The line break. -/
def newline : UInt8 := 10

/-- Takes a line off some bytes. -/
def splitLine (bs : Bytes) : Bytes × Bool × Bytes :=
  match bs.dropWhile (· != newline) with
  | _ :: rest => (bs.takeWhile (· != newline), true, rest)
  | [] => (bs, false, [])

/-- Reads a line from the input of a command. -/
def readLine (m : Machine) : LineRead × Machine :=
  match m.channel 0 with
  | .input =>
    match splitLine m.input with
    | (line, true, rest) => (.line line true, { m with input := rest })
    | (line, false, _) =>
      if !m.inputEnded then (.wait, m)
      else if line.isEmpty then (.ended, m)
      else (.line line false, { m with input := [] })
  | .store id =>
    match splitLine (m.store id) with
    | (line, true, rest) => (.line line true, m.setStore id rest)
    | (line, false, _) =>
      if line.isEmpty then (.ended, m) else (.line line false, m.setStore id [])
  | _ => (.ended, m)

/-- Takes all input that is there; tells whether more may follow. -/
def takeInput (m : Machine) : Bytes × Bool × Machine :=
  match m.channel 0 with
  | .input => (m.input, !m.inputEnded, { m with input := [] })
  | .store id => (m.store id, false, m.setStore id [])
  | _ => ([], false, m)

end Machine

end PrimitiveDesk.Script
