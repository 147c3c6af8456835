import PrimitiveDesk.Project.Profile

/-!
# Commands

The programs that a build starts: the generator, which waits for requests, and the steps that
configure, compile and run the generated tests.
-/

namespace PrimitiveDesk

/-- A program with its arguments. -/
structure Command where
  program : String
  arguments : List String
deriving DecidableEq, Repr, Inhabited

namespace Profile

/-- The command that starts the generator of a project, to be run in its root. -/
def generator (p : Profile) (interpreter : String) (root build : Path) : Command :=
  ⟨interpreter, [(root.joinText p.entryScript).text, "-o", build.text, "-d", "-s"]⟩

/-- The steps that build and run the tests of a primitive for an extension. -/
def buildSteps (p : Profile) (build : Path) (extension primitive : String) : List Command :=
  let output := build.joinText "build"
  [⟨"cmake", ["-S", build.text, "-B", output.text]⟩,
   ⟨"cmake", ["--build", output.text, "-j"]⟩,
   ⟨(output.joinText ("src/test/" ++ p.name ++ "_test")).text,
    ["[" ++ extension ++ "][" ++ primitive ++ "]"]⟩]

end Profile

end PrimitiveDesk
