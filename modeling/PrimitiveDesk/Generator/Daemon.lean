import PrimitiveDesk.Generator.Command
import PrimitiveDesk.Generator.Error
import PrimitiveDesk.Generator.Idle
import PrimitiveDesk.Json.Printer
import PrimitiveDesk.Script.Process

/-!
# The running generator

The generator is a process that reads a request per line. A request is sent only if the generator
could be claimed, and is finished as soon as a sign of idleness follows.
-/

namespace PrimitiveDesk

/-- The text of a command. -/
def Command.lineText (c : Command) : String :=
  String.intercalate " " (c.program :: c.arguments)

/-- What the generator is asked for. -/
structure Request where
  cpuFlags : List String
  primitives : List String
deriving DecidableEq, Repr, Inhabited

/-- The line that sends a request. -/
def Request.line (r : Request) : String :=
  let texts (ss : List String) : Json := .arr (ss.map .str)
  (Json.obj [("lscpu_flags", texts r.cpuFlags), ("primitives", texts r.primitives)]).compact ++ "\n"

/-- How a request ends. -/
inductive Outcome where
  | generated
  /-- The generator was busy, and nothing was sent. -/
  | alreadyActive
deriving DecidableEq, Repr, Inhabited

/-- A running generator. -/
structure Daemon where
  process : Process
  flag : IdleFlag
  /-- How many signs of either stream were noted. -/
  heard : Nat × Nat
  /-- Whether it was shut down. -/
  stopped : Bool
deriving Inhabited

namespace Daemon

/-- The lines of a stream: those that are complete, and the last one if the stream has ended. -/
def heardLines (ended : Bool) (stream : Bytes) : List Bytes :=
  let lines := Script.linesOf stream
  let complete := lines.filter fun l => l.getLast? == some Script.Machine.newline
  if ended then lines else complete

/-- Carries out what the process has done, and notes the new signs of idleness. -/
def advance (d : Daemon) (tree : FileTree) : Daemon × FileTree :=
  if d.stopped then (d, tree)
  else
    let done := d.process.trace
    let ended := done.standing.isOver
    let out := streamEvents false ended (heardLines ended done.out)
    let err := streamEvents true ended (heardLines ended done.err)
    let (process, tree) := d.process.settle tree
    ({ d with
       process
       flag := (d.flag.observeAll (out.drop d.heard.1)).observeAll (err.drop d.heard.2)
       heard := (out.length, err.length) }, tree)

/-- Starts the generator in a folder. It counts as busy until it shows that it is idle. -/
def spawn (tree : FileTree) (searchPath : List Path) (folder : Path) (c : Command) :
    Except GeneratorError (Daemon × FileTree) :=
  match Process.launch tree searchPath folder c.program c.arguments with
  | .error e => .error (.spawn c.lineText e)
  | .ok process => .ok (advance ⟨process, .busy, (0, 0), false⟩ tree)

/-- Whether the generator is idle. -/
def isIdle (d : Daemon) : Bool := d.flag.isIdle

/-- Lets the generator sleep until it is idle, at most so often. -/
def awaitIdle : Nat → Daemon → FileTree → Daemon × FileTree
  | 0, d, tree => (d, tree)
  | fuel + 1, d, tree =>
    if d.isIdle then (d, tree)
    else if d.process.trace.standing == .asleep then
      let (d, tree) := { d with process := d.process.wake }.advance tree
      awaitIdle fuel d tree
    else (d, tree)

/-- Waits until the generator is idle. -/
def ready (d : Daemon) (tree : FileTree) : Daemon × FileTree :=
  awaitIdle Process.napLimit d tree

/-- Whether a request can be written. -/
def canWrite (d : Daemon) : Bool :=
  let done := d.process.trace
  !d.stopped && !done.standing.isOver && done.inputOpen

/-- Sends a request and waits until it is finished. -/
def generate (d : Daemon) (tree : FileTree) (r : Request) :
    Except GeneratorError Outcome × Daemon × FileTree :=
  match d.flag.claim? with
  | none => (.ok .alreadyActive, d, tree)
  | some flag =>
    let d := { d with flag }
    if !d.canWrite then
      (.error (.write .brokenPipe), { d with flag := flag.observe .failedWrite }, tree)
    else
      let (d, tree) := { d with process := d.process.feed (Text.encode r.line) }.advance tree
      let (d, tree) := d.ready tree
      if d.process.trace.standing.isOver then (.error .exited, d, tree)
      else (.ok .generated, d, tree)

/-- Stops the generator. -/
def shutdown (d : Daemon) : Daemon :=
  { d with stopped := true, flag := d.flag.observe .shutdown }

end Daemon

end PrimitiveDesk
