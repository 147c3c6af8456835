import PrimitiveDesk.Script.Run

/-!
# Processes

A process is a started program together with the input that it got. What it has done so far is
computed from that (`Process.trace`), so that giving it more input only extends its outputs and its
changes of files.
-/

namespace PrimitiveDesk

open Script

/-- How a process stands. -/
inductive Standing where
  /-- It waits for input. -/
  | waiting
  | asleep
  | exited (status : Nat)
  | killed (signal : Nat)
deriving DecidableEq, Repr, Inhabited

namespace Standing

/-- Whether the process is over. -/
def isOver : Standing → Bool
  | exited _ => true
  | killed _ => true
  | _ => false

/-- The name of a signal. -/
def signalName : Nat → String
  | 1 => " (SIGHUP)"
  | 2 => " (SIGINT)"
  | 3 => " (SIGQUIT)"
  | 6 => " (SIGABRT)"
  | 9 => " (SIGKILL)"
  | 10 => " (SIGUSR1)"
  | 11 => " (SIGSEGV)"
  | 12 => " (SIGUSR2)"
  | 13 => " (SIGPIPE)"
  | 14 => " (SIGALRM)"
  | 15 => " (SIGTERM)"
  | _ => ""

/-- How the end of a process is told. -/
def text : Standing → String
  | exited n => "exit status: " ++ Text.decimal n
  | killed s => "signal: " ++ Text.decimal s ++ signalName s
  | _ => "running"

end Standing

/-- What a process has done so far. -/
structure Trace where
  out : Bytes
  err : Bytes
  standing : Standing
  /-- Its changes of files, in order. -/
  effects : List Effect
  /-- Whether it can still read its input. -/
  inputOpen : Bool
deriving Inhabited

/-- A started program. -/
structure Process where
  program : Found
  arguments : List String
  folder : Path
  searchPath : List Path
  /-- The files as they were when the program was started. -/
  start : FileTree
  /-- The input so far. -/
  received : Bytes
  inputEnded : Bool
  /-- How many times it may have slept. -/
  naps : Nat
  /-- How many of its changes of files are carried out. -/
  applied : Nat
deriving Inhabited

namespace Process

/-- How many bytes an argument of a program may have. -/
def argumentLimit : Nat := 131071

/-- Starts a program in a folder. -/
def launch (tree : FileTree) (searchPath : List Path) (folder : Path) (program : String)
    (arguments : List String) : Except SystemError Process :=
  if (program :: arguments).any (·.contains '\x00') then .error .badArgument else
  match tree.find (FileTree.namesAt folder) with
  | .error e => .error e
  | .ok (.file _ _) => .error .notFolder
  | .ok (.folder _) =>
    match findProgram tree folder searchPath program with
    | .error e => .error e
    | .ok found =>
      if arguments.any fun a => argumentLimit < a.utf8ByteSize then .error .argumentsTooLong
      else .ok {
        program := found.outside, arguments, folder, searchPath, start := tree, received := []
        inputEnded := false, naps := 0, applied := 0 }

/-- How many steps a process may take. -/
def stepLimit : Nat := 20000

/-- What the process has done so far. -/
def trace (p : Process) : Trace :=
  let (flow, m) := runFound stepLimit p.program p.arguments {
    tree := p.start, effects := [], folder := p.folder, searchPath := p.searchPath, name := "sh"
    arguments := [], bindings := [], exported := [], functions := [], status := 0
    input := p.received, inputEnded := p.inputEnded
    inputOpen := true, naps := p.naps, out := [], err := [], stores := []
    descriptors := [(0, .input), (1, .output), (2, .error)], strict := false }
  { out := m.out.reverse.flatten
    err := m.err.reverse.flatten
    effects := m.effects.reverse
    inputOpen := m.inputOpen
    standing := match flow with
      | .awaitInput => .waiting
      | .asleep => .asleep
      | .killed s => .killed s
      | .leave n => .exited n
      | .giveBack n => .exited n
      | _ => .exited m.status }

/-- Carries out those changes of files that are not carried out yet. -/
def settle (p : Process) (tree : FileTree) : Process × FileTree :=
  let effects := p.trace.effects
  ({ p with applied := effects.length }, Effect.applyAll tree (effects.drop p.applied))

/-- Gives more input. -/
def feed (p : Process) (input : Bytes) : Process :=
  { p with received := p.received ++ input }

/-- Lets the process sleep once more. -/
def wake (p : Process) : Process :=
  { p with naps := p.naps + 1 }

/-- How often a process may sleep before it counts as stuck. -/
def napLimit : Nat := 1000

/-- Lets a process run to its end without input. -/
def finish (p : Process) : Process :=
  { p with inputEnded := true, naps := napLimit }

end Process

end PrimitiveDesk
