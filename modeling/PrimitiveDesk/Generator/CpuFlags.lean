import PrimitiveDesk.Text.Blank
import PrimitiveDesk.Text.Lines

/-!
# CPU flags

The flags of a machine's first processor, read from the system's listing of processors.
-/

namespace PrimitiveDesk

open Text

/-- The words of a text, between blanks. -/
def words : List Char → List (List Char) :=
  fun cs => (cs.splitOnP isBlank).filter fun w => !w.isEmpty

/-- The value of a line that lists flags. -/
def flagsOfLine? (line : List Char) : Option (List Char) :=
  match line.dropWhile (· != ':') with
  | _ :: value =>
    let key := String.ofList (trim (line.takeWhile (· != ':')))
    if key = "flags" ∨ key = "Features" then some value else none
  | [] => none

/-- The flags of the first line that lists any, sorted and without repetitions. -/
def cpuFlags (listing : String) : List String :=
  match (lines listing.toList).findSome? flagsOfLine? with
  | some value => ((words value).map String.ofList).mergeSort (· ≤ ·) |>.eraseReps
  | none => []

end PrimitiveDesk
