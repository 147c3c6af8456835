import PrimitiveDesk.Text.Digit

/-!
# Tables of code points

Large tables of characters are written as lines of text: rows of hexadecimal numbers, with
semicolons between the rows of a line and spaces between the numbers of a row.
-/

namespace PrimitiveDesk.Text

/-- The rows of a table. -/
def tableRows (lines : List String) : List (List Nat) :=
  (lines.flatMap fun line => line.splitOn ";").map fun row =>
    (row.splitOn " ").filterMap fun n => readNat? 16 n.toList

/-- The runs of a table whose rows hold the first and the last code point of a run. -/
def tableRuns (lines : List String) : List (Nat × Nat) :=
  (tableRows lines).filterMap fun
    | [first, last] => some (first, last)
    | _ => none

end PrimitiveDesk.Text
