import PrimitiveDesk.Number.Extended

/-!
# Whole numbers of templates

A whole number is held in 64 bits if it fits, and else in 128 bits. Numbers that are given have no
sign unless they are negative, and numbers that are computed have one. How a number is held shows
where two numbers are brought together (`Whole.pair?`) and where one becomes a double
(`Whole.exactFloat?`).
-/

namespace PrimitiveDesk.Template

/-- A whole number with how it is held. -/
structure Whole where
  value : Int
  signed : Bool
deriving DecidableEq, Repr, Inhabited

namespace Whole

/-- A number that is given. -/
def given (n : Int) : Whole := ⟨n, decide (n < 0)⟩

/-- A number that was computed; none if it has more than 128 bits. -/
def computed? (n : Int) : Option Whole :=
  if -Int.pow 2 127 ≤ n ∧ n < Int.pow 2 127 then some ⟨n, true⟩ else none

/-- The least and the greatest number that are held in the same way. -/
def bounds (n : Whole) : Int × Int :=
  if n.signed then
    if -Int.pow 2 63 ≤ n.value ∧ n.value < Int.pow 2 63 then (-Int.pow 2 63, Int.pow 2 63 - 1)
    else (-Int.pow 2 127, Int.pow 2 127 - 1)
  else if n.value < Int.pow 2 64 then (0, Int.pow 2 64 - 1)
  else (0, Int.pow 2 128 - 1)

/-- Whether a number is held in 128 bits without a sign. -/
def isWide (n : Whole) : Bool :=
  !n.signed && decide (Int.pow 2 64 ≤ n.value)

/-- Two numbers for an operation, both with a sign in 128 bits. Two wide numbers are taken bit by
bit; otherwise a number that does not fit has none. -/
def pair? (m n : Whole) : Option (Int × Int) :=
  if m.isWide && n.isWide then
    some (m.value.bmod (Nat.pow 2 128), n.value.bmod (Nat.pow 2 128))
  else if m.value < Int.pow 2 127 ∧ n.value < Int.pow 2 127 then some (m.value, n.value)
  else none

/-- The double nearest to a number. -/
def nearestFloat (n : Whole) : Extended :=
  .ofInt n.value

/-- The double nearest to a number, if it leads back to the number. On the way back a double out of
bounds is the number at the bound. -/
def exactFloat? (n : Whole) : Option Extended :=
  match (Binary64.ofInt? n.value).bind fun x => x.toInt?.map fun m => (x, m) with
  | some (x, m) =>
    let (least, greatest) := n.bounds
    if max least (min greatest m) = n.value then some (.finite x) else none
  | none => none

/-- The number with the other sign; none if it does not fit. The one number that only fits with the
other sign stays as it is. -/
def neg? (n : Whole) : Option Whole :=
  if n.value = Int.pow 2 127 ∧ n.isWide then some n
  else if n.value < Int.pow 2 127 then computed? (-n.value)
  else none

end Whole

end PrimitiveDesk.Template
