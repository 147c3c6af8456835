/-!
# Runs

A long row of items given by runs: items with how often they follow each other. Its length and its
items are found without writing it out (`Runs.length`, `Runs.get?`); `Runs.toList` writes it out.
-/

namespace PrimitiveDesk.Template.Runs

variable {α : Type}

/-- The items of all runs behind each other. -/
def toList (runs : List (List α × Nat)) : List α :=
  runs.flatMap fun (items, times) => (List.replicate times items).flatten

/-- Items that follow each other a number of times. -/
def repeated (items : List α) (times : Nat) : List (List α × Nat) :=
  if items.isEmpty || times == 0 then [] else [(items, times)]

/-- The runs of a row that follows itself a number of times. -/
def scale (runs : List (List α × Nat)) (times : Nat) : List (List α × Nat) :=
  match runs with
  | [(items, k)] => repeated items (k * times)
  | runs => repeated (toList runs) times

/-- The number of items. -/
def length : List (List α × Nat) → Nat
  | [] => 0
  | (items, times) :: rest => items.length * times + length rest

/-- The item at a place. -/
def get? : List (List α × Nat) → Nat → Option α
  | [], _ => none
  | (items, times) :: rest, i =>
    let size := items.length * times
    if i < size then items[i % items.length]? else get? rest (i - size)

@[simp] theorem toList_nil : toList ([] : List (List α × Nat)) = [] := rfl

@[simp] theorem toList_cons (items : List α) (times : Nat) (rest : List (List α × Nat)) :
    toList ((items, times) :: rest) = (List.replicate times items).flatten ++ toList rest := by
  simp [toList]

theorem toList_append (xs ys : List (List α × Nat)) :
    toList (xs ++ ys) = toList xs ++ toList ys := by
  simp [toList]

theorem length_toList (runs : List (List α × Nat)) : (toList runs).length = length runs := by
  induction runs with
  | nil => rfl
  | cons r rest ih =>
    obtain ⟨items, times⟩ := r
    simp [length, ih, Nat.mul_comm]

end PrimitiveDesk.Template.Runs
