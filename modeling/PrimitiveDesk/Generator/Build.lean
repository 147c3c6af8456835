import PrimitiveDesk.Generator.Command
import PrimitiveDesk.Generator.Error
import PrimitiveDesk.Script.Process

/-!
# Builds

A build runs its steps one after another in one folder and stops at the first that fails. Its log is
what all steps printed.
-/

namespace PrimitiveDesk

/-- The text of a build step. -/
def Command.stepText (c : Command) : String :=
  c.program ++ " " ++ String.intercalate " " c.arguments

/-- Runs a step of a build to its end: what it printed, output first, and the files afterwards. -/
def Command.runStep (c : Command) (searchPath : List Path) (folder : Path) (tree : FileTree) :
    Except GeneratorError String × FileTree :=
  match Process.launch tree searchPath folder c.program c.arguments with
  | .error e => (.error (.spawn c.stepText e), tree)
  | .ok p =>
    let p := p.finish
    let done := p.trace
    let text := Text.decodeLossy done.out ++ Text.decodeLossy done.err
    let tree := (p.settle tree).2
    if done.standing == .exited 0 then (.ok text, tree)
    else (.error (.stepFailed c.stepText done.standing.text text), tree)

/-- Runs the steps of a build; gives the log and the files afterwards. -/
def runBuild (searchPath : List Path) (folder : Path) (tree : FileTree) :
    List Command → Except GeneratorError String × FileTree
  | [] => (.ok "", tree)
  | c :: rest =>
    match c.runStep searchPath folder tree with
    | (.error e, tree) => (.error e, tree)
    | (.ok text, tree) =>
      let (log, tree) := runBuild searchPath folder tree rest
      (log.map (text ++ ·), tree)

end PrimitiveDesk
