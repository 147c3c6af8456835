import PrimitiveDesk.Assoc
import PrimitiveDesk.Number.Binary64

/-!
# JSON values

Objects keep their members in order of insertion, and integers and doubles are different numbers.

`Json.same` is equality of values: the order of members does not matter, nor the sign of a zero.
-/

namespace PrimitiveDesk

/-- A JSON value. -/
inductive Json where
  | null
  | bool (b : Bool)
  | int (n : Int)
  | float (x : Binary64)
  | str (s : String)
  | arr (items : List Json)
  | obj (members : List (String × Json))
deriving Inhabited, Repr

namespace Json

/-- The members of an object, in order. -/
abbrev Members := List (String × Json)

/-- The members of an object; none for other values. -/
def members? : Json → Option Members
  | .obj ms => some ms
  | _ => none

/-- The member of an object; none for other values. -/
def get? (j : Json) (name : String) : Option Json :=
  j.members?.bind (Assoc.find? · name)

/-- The text of a string; none for other values. -/
def str? : Json → Option String
  | .str s => some s
  | _ => none

/-- The items of an array; none for other values. -/
def items? : Json → Option (List Json)
  | .arr items => some items
  | _ => none

/-- Whether the value is null. -/
def isNull : Json → Bool
  | .null => true
  | _ => false

mutual

/-- Equality of values. -/
def same : Json → Json → Bool
  | .null, .null => true
  | .bool a, .bool b => a == b
  | .int m, .int n => m == n
  | .float x, .float y => x.sameValue y
  | .str s, .str t => s == t
  | .arr xs, .arr ys => sameItems xs ys
  | .obj ms, .obj ns => ms.length == ns.length && sameMembers ms ns
  | _, _ => false

/-- Pairwise equality of items. -/
def sameItems : List Json → List Json → Bool
  | [], [] => true
  | x :: xs, y :: ys => same x y && sameItems xs ys
  | _, _ => false

/-- Whether every member has an equal member of the same name on the other side. -/
def sameMembers : Members → Members → Bool
  | [], _ => true
  | (n, v) :: ms, ns =>
    (match Assoc.find? ns n with
      | some w => same v w
      | none => false) && sameMembers ms ns

end

end Json

end PrimitiveDesk
