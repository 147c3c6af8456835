import PrimitiveDesk.Number.Shortest

/-!
# Doubles with infinities

The results of arithmetic on doubles: a finite double, an infinity, or no number at all. A result
out of range is infinite. What is no number has a sign too, which only shows in the order of all
doubles: operations without a result give the negative one, and pass on the one they are given.
-/

namespace PrimitiveDesk

/-- A double, an infinity, or not a number. -/
inductive Extended where
  | finite (x : Binary64)
  | infinite (negative : Bool)
  | nan (negative : Bool)
deriving DecidableEq, Repr, Inhabited

namespace Extended

/-- A finite result, or the infinity beyond it. -/
def ofResult (negative : Bool) : Option Binary64 → Extended
  | some x => finite x
  | none => infinite negative

/-- The double nearest to an integer. -/
def ofInt (n : Int) : Extended :=
  ofResult (n < 0) (Binary64.ofInt? n)

/-- Whether the sign is negative. -/
def negative : Extended → Bool
  | finite x => x.negative
  | infinite s => s
  | nan s => s

/-- What operations give that have no result. -/
def invalid : Extended := nan true

/-- Whether the value is a zero. -/
def isZero : Extended → Bool
  | finite x => x.isZero
  | _ => false

/-- The value with the other sign. -/
def neg : Extended → Extended
  | finite x => finite x.neg
  | infinite s => infinite (!s)
  | nan s => nan (!s)

/-- The sum. -/
def add : Extended → Extended → Extended
  | nan s, _ => nan s
  | _, nan s => nan s
  | finite x, finite y => ofResult x.negative (x.add? y)
  | infinite s, infinite t => if s == t then infinite s else invalid
  | infinite s, finite _ => infinite s
  | finite _, infinite t => infinite t

/-- The difference. -/
def sub : Extended → Extended → Extended
  | nan s, _ => nan s
  | _, nan s => nan s
  | x, y => add x y.neg

/-- The product. -/
def mul (x y : Extended) : Extended :=
  let s := x.negative != y.negative
  match x, y with
  | nan s, _ => nan s
  | _, nan s => nan s
  | finite a, finite b => ofResult s (a.mul? b)
  | x, y => if x.isZero || y.isZero then invalid else infinite s

/-- The quotient. -/
def div (x y : Extended) : Extended :=
  let s := x.negative != y.negative
  match x, y with
  | nan s, _ => nan s
  | _, nan s => nan s
  | infinite _, infinite _ => invalid
  | infinite _, finite _ => infinite s
  | finite _, infinite _ => ofResult s (Binary64.ofRatio? s 0 1)
  | finite a, finite b =>
    if b.isZero then (if a.isZero then invalid else infinite s) else ofResult s (a.div? b)

/-- The value without its fraction. -/
def trunc : Extended → Extended
  | finite x =>
    let (n, d) := x.magnitude
    ofResult x.negative (Binary64.ofRatio? x.negative (n / d) 1)
  | x => x

/-- What a division without fraction leaves, with the sign of the first operand. -/
def rem : Extended → Extended → Extended
  | nan s, _ => nan s
  | _, nan s => nan s
  | infinite _, _ => invalid
  | finite x, infinite _ => finite x
  | finite x, finite y =>
    if y.isZero then invalid
    else
      let (n, d) := x.magnitude
      let (m, e) := y.magnitude
      ofResult x.negative (Binary64.ofRatio? x.negative ((n * e) % (m * d)) (d * e))

/-- Whether one value is less than another. -/
def lt : Extended → Extended → Bool
  | finite x, finite y => x.lt y
  | infinite s, infinite t => s && !t
  | infinite s, finite _ => s
  | finite _, infinite t => !t
  | _, _ => false

/-- Equality of values; not a number equals nothing. -/
def sameValue : Extended → Extended → Bool
  | finite x, finite y => x.sameValue y
  | infinite s, infinite t => s == t
  | _, _ => false

/-- The place of a value among the kinds of doubles, from the least to the greatest. -/
def place : Extended → Nat
  | nan true => 0
  | infinite true => 1
  | finite _ => 2
  | infinite false => 3
  | nan false => 4

/-- The order of all doubles by value; what is no number is at an end. -/
def order (x y : Extended) : Ordering :=
  match x, y with
  | finite a, finite b => if a.lt b then .lt else if b.lt a then .gt else .eq
  | x, y => compare x.place y.place

/-- The order of a double and an integer by their exact values. -/
def orderInt (x : Extended) (n : Int) : Ordering :=
  match x with
  | finite a =>
    let (m, d) := a.ratio
    compare m (n * d)
  | x => compare x.place (finite default).place

/-- One. -/
def one : Extended := ofInt 1

/-- The quotient for which the rest is not negative. -/
def divEuclid (x y : Extended) : Extended :=
  let q := (div x y).trunc
  if (rem x y).lt (ofInt 0) then
    (if (ofInt 0).lt y then sub q one else add q one)
  else q

/-- The integer value, if there is one. -/
def toInt? : Extended → Option Int
  | finite x => x.toInt?
  | _ => none

/-- The text in a style. -/
def text (style : FloatStyle) : Extended → String
  | finite x => x.text style
  | infinite s => if s then "-inf" else "inf"
  | nan _ => "NaN"

end Extended

end PrimitiveDesk
