/-!
# Named values in order

Lists of named values that keep the order in which the names were first added. JSON objects and
schema levels are such lists. There are two ways of adding a value: `Assoc.set` overwrites in place,
`Assoc.setAbsent` leaves a value that is already there.
-/

namespace PrimitiveDesk.Assoc

variable {α : Type}

/-- The first value with the given name. -/
def find? : List (String × α) → String → Option α
  | [], _ => none
  | (n, v) :: rest, name => if n = name then some v else find? rest name

/-- Whether there is a value with the given name. -/
def has (l : List (String × α)) (name : String) : Bool :=
  (find? l name).isSome

/-- Sets a value: an old one is overwritten in place, a new one goes to the end. -/
def set : List (String × α) → String → α → List (String × α)
  | [], name, value => [(name, value)]
  | (n, v) :: rest, name, value =>
    if n = name then (n, value) :: rest else (n, v) :: set rest name value

/-- Adds a value at the end unless there is one of that name. -/
def setAbsent (l : List (String × α)) (name : String) (value : α) : List (String × α) :=
  if has l name then l else l ++ [(name, value)]

/-- Sets one value after the other: a repeated name keeps its first place and its last value. -/
def ofList (entries : List (String × α)) : List (String × α) :=
  entries.foldl (fun l e => set l e.1 e.2) []

/-- Adds the values whose names are not there yet. -/
def extend (base extender : List (String × α)) : List (String × α) :=
  extender.foldl (fun l e => setAbsent l e.1 e.2) base

/-- The list without the values of the given name. -/
def erase (l : List (String × α)) (name : String) : List (String × α) :=
  l.filter fun e => e.1 ≠ name

/-- The names in order. -/
def names (l : List (String × α)) : List String :=
  l.map (·.1)

theorem sizeOf_lt_of_find? [SizeOf α] {l : List (String × α)} {name : String} {v : α}
    (h : find? l name = some v) : sizeOf v < sizeOf l := by
  induction l with
  | nil => simp [find?] at h
  | cons e rest ih =>
    obtain ⟨n, w⟩ := e
    simp only [find?] at h
    split at h
    · cases h
      simp only [List.cons.sizeOf_spec, Prod.mk.sizeOf_spec]
      omega
    · have := ih h
      simp only [List.cons.sizeOf_spec]
      omega

end PrimitiveDesk.Assoc
