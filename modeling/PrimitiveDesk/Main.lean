import PrimitiveDesk.CommandLine.Run

/-!
# The program

Loads the files that the command line names, and the schema sources of their projects, and prints
what the run gives.
-/

namespace PrimitiveDesk.CommandLine

/-- The files that an action reads. -/
def Action.files : Action → List String
  | check files => files
  | outline file => [file]
  | schema file => [file]
  | _ => []

/-- The schema sources that a data file may be checked against. -/
def schemaSources (file : Path) : List Path :=
  match ProjectPlaces.rootOf? file with
  | some root => Profile.all.map fun p => p.schemaFile root
  | none => []

/-- Adds what stands at a path to a tree. -/
def loadEntry (tree : FileTree) (path : Path) : IO FileTree := do
  let place := (← IO.currentDir) / path.text
  let names := FileTree.namesAt path
  if ← place.isDir then
    return (tree.makeFolders names).toOption.getD tree
  else if ← place.pathExists then
    let content ← IO.FS.readBinFile place
    return (tree.write names content.toList).toOption.getD tree
  else
    return tree

/-- Adds a file with the folders above it to a tree. -/
def loadFile (tree : FileTree) (path : Path) : IO FileTree :=
  (path.folders.reverse ++ [path]).foldlM loadEntry tree

/-- Loads all files that a run can need. -/
def loadPlace (arguments : List String) : IO Place := do
  let folder := Path.ofText (← IO.currentDir).toString
  let named := match readArguments arguments with
    | .ok action => action.files.map fun f => folder.joinText f
    | .error _ => []
  let tree ← (folder :: named ++ named.flatMap schemaSources).foldlM loadFile .empty
  return ⟨tree, folder⟩

end PrimitiveDesk.CommandLine

open PrimitiveDesk in
/-- Runs the program on its arguments. -/
def main (arguments : List String) : IO UInt32 := do
  let place ← CommandLine.loadPlace arguments
  let result := CommandLine.run place arguments
  IO.print result.output
  for message in result.errors do
    IO.eprintln message
  return result.exitCode.toUInt32
