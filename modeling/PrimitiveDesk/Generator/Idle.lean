import PrimitiveDesk.Text.Blank
import PrimitiveDesk.Text.Utf8

/-!
# Telling when the generator is idle

The generator does not acknowledge requests. A line of its output that holds `Ready` or `Done`, any
line of its error output, the end of either stream, a request that cannot be written and a shutdown
count as signs that it is idle. A caller that wants to send a request has to claim it first, which
clears the flag in the same step in which it is tested.
-/

namespace PrimitiveDesk

/-- A sign that the generator is idle. -/
inductive IdleEvent where
  /-- A line of the output with a marker. -/
  | markedLine
  | errorLine
  | streamEnd
  | failedWrite
  | shutdown
deriving DecidableEq, Repr, Inhabited

/-- Whether the generator is idle. -/
structure IdleFlag where
  isIdle : Bool
deriving DecidableEq, Repr, Inhabited

namespace IdleFlag

/-- The flag of a generator that was just started. -/
def busy : IdleFlag := ⟨false⟩

/-- Takes the flag for a request: it must be set, and is cleared. -/
def claim? (f : IdleFlag) : Option IdleFlag :=
  if f.isIdle then some busy else none

/-- Takes note of a sign. -/
def observe (_ : IdleFlag) (_ : IdleEvent) : IdleFlag := ⟨true⟩

/-- Takes note of signs one after another. -/
def observeAll (f : IdleFlag) (events : List IdleEvent) : IdleFlag :=
  events.foldl observe f

end IdleFlag

/-- What a line of output must hold to be a sign. -/
def idleMarkers : List String := ["Ready", "Done"]

/-- The sign that a line is. -/
def lineEvent? (errors : Bool) (line : String) : Option IdleEvent :=
  if errors then some .errorLine
  else if idleMarkers.any fun k => Text.occursIn k.toList line.toList then some .markedLine
  else none

/-- The signs in a stream so far, in order. Lines that are no text end the reading of it. -/
def streamEvents (errors ended : Bool) : List Bytes → List IdleEvent
  | [] => if ended then [.streamEnd] else []
  | line :: rest =>
    match Text.decode? line with
    | none => [.streamEnd]
    | some text => (lineEvent? errors text).toList ++ streamEvents errors ended rest

end PrimitiveDesk
