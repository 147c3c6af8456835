import PrimitiveDesk.Files.Error

/-!
# Faults of the generator

Why the generator cannot be talked to, or a build step fails.
-/

namespace PrimitiveDesk

/-- Why the generator or a build fails. -/
inductive GeneratorError where
  /-- A program cannot be started. -/
  | spawn (commandLine : String) (cause : SystemError)
  /-- A request cannot be sent. -/
  | write (cause : SystemError)
  /-- The generator ended during a request. -/
  | exited
  /-- A step of the build failed, with the way it ended and what it printed. -/
  | stepFailed (step status output : String)
deriving DecidableEq, Repr, Inhabited

/-- The text of a fault. -/
def GeneratorError.message : GeneratorError → String
  | spawn commandLine cause => "failed to start \x60" ++ commandLine ++ "\x60: " ++ cause.message
  | write cause => "failed to send request to the generator daemon: " ++ cause.message
  | exited => "generator daemon exited"
  | stepFailed step status output => "\x60" ++ step ++ "\x60 failed (" ++ status ++ "):\n" ++ output

end PrimitiveDesk
