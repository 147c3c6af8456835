/-!
# Finite double-precision numbers

A `Binary64` is a finite number of the IEEE 754 format of 64 bits, kept as its sign, significand and
exponent so that everything about it can be computed in exact integer arithmetic. Numbers are made
by rounding a ratio of naturals to the nearest double, a tie going to the even significand
(`Binary64.ofRatio?`); a ratio beyond the largest double gives none.
-/

namespace PrimitiveDesk

/-- The finite double `(-1)^negative * significand * 2^exponent`. A number made by this library has
`significand < 2^53` and `-1074 ≤ exponent`, and `2^52 ≤ significand` unless the exponent is the
least one. -/
structure Binary64 where
  negative : Bool
  significand : Nat
  exponent : Int
deriving DecidableEq, Repr, Inhabited

namespace Binary64

/-- The least exponent of a double. -/
def leastExponent : Int := -1074

/-- The largest exponent of a double. -/
def largestExponent : Int := 971

/-- The quotient rounded to the nearest natural, a tie to the even one. -/
def divRoundEven (n d : Nat) : Nat :=
  let q := n / d
  let r := n % d
  if d < 2 * r || (2 * r == d && q % 2 == 1) then q + 1 else q

/-- Numerator and denominator of `n / d * 2^(-e)`. -/
def scaled (n d : Nat) (e : Int) : Nat × Nat :=
  if 0 ≤ e then (n, d * Nat.pow 2 e.toNat) else (n * Nat.pow 2 (-e).toNat, d)

/-- The exponent at which the significand of `n / d` has 53 bits, or the least exponent. -/
def exponentFor (n d : Nat) : Int :=
  let e : Int := (n.log2 : Int) - (d.log2 : Int) - 52
  let (sn, sd) := scaled n d e
  max leastExponent (if sn < Nat.pow 2 52 * sd then e - 1 else e)

/-- The double nearest to `± n / d`; none if it is out of range. -/
def ofRatio? (negative : Bool) (n d : Nat) : Option Binary64 :=
  if n = 0 then some ⟨negative, 0, leastExponent⟩
  else
    let e := exponentFor n d
    let (sn, sd) := scaled n d e
    let q := divRoundEven sn sd
    let (q, e) := if q = Nat.pow 2 53 then (Nat.pow 2 52, e + 1) else (q, e)
    if largestExponent < e then none else some ⟨negative, q, e⟩

/-- The double nearest to `± digits * 10^exponent`; none if it is out of range. The two bounds only
spare the arithmetic on numbers that are far out of range. -/
def ofDecimal? (negative : Bool) (digits : Nat) (exponent : Int) : Option Binary64 :=
  let size : Int := ((Nat.toDigits 10 digits).length : Int) + exponent
  if digits = 0 || size < -400 then some ⟨negative, 0, leastExponent⟩
  else if 400 < size then none
  else if 0 ≤ exponent then ofRatio? negative (digits * Nat.pow 10 exponent.toNat) 1
  else ofRatio? negative digits (Nat.pow 10 (-exponent).toNat)

/-- Numerator and denominator of the magnitude. -/
def magnitude (x : Binary64) : Nat × Nat :=
  if 0 ≤ x.exponent then (x.significand * Nat.pow 2 x.exponent.toNat, 1)
  else (x.significand, Nat.pow 2 (-x.exponent).toNat)

/-- Signed numerator and denominator. -/
def ratio (x : Binary64) : Int × Nat :=
  let (n, d) := x.magnitude
  (if x.negative then -(n : Int) else (n : Int), d)

/-- Whether the number is one of the two zeros. -/
def isZero (x : Binary64) : Bool :=
  x.significand == 0

/-- Equality of values: the two zeros are equal. -/
def sameValue (x y : Binary64) : Bool :=
  (x.isZero && y.isZero) || x == y

/-- Order of values. -/
def lt (x y : Binary64) : Bool :=
  let (n, d) := x.ratio
  let (m, e) := y.ratio
  n * e < m * d

/-- Rounds a signed ratio; the sign of a zero is given. -/
def ofSigned? (zeroNegative : Bool) (n : Int) (d : Nat) : Option Binary64 :=
  ofRatio? (if n = 0 then zeroNegative else n < 0) n.natAbs d

/-- The double nearest to an integer. -/
def ofInt? (n : Int) : Option Binary64 :=
  ofSigned? false n 1

/-- The integer value, if the number has no fraction. -/
def toInt? (x : Binary64) : Option Int :=
  let (n, d) := x.ratio
  if n.natAbs % d = 0 then some (n.tdiv d) else none

/-- The rounded sum; none if it is out of range. -/
def add? (x y : Binary64) : Option Binary64 :=
  let (n, d) := x.ratio
  let (m, e) := y.ratio
  ofSigned? (x.negative && y.negative) (n * e + m * d) (d * e)

/-- The number with the other sign. -/
def neg (x : Binary64) : Binary64 :=
  { x with negative := !x.negative }

/-- The rounded product; none if it is out of range. -/
def mul? (x y : Binary64) : Option Binary64 :=
  let (n, d) := x.magnitude
  let (m, e) := y.magnitude
  ofRatio? (x.negative != y.negative) (n * m) (d * e)

/-- The rounded quotient by a number other than zero; none if it is out of range. -/
def div? (x y : Binary64) : Option Binary64 :=
  let (n, d) := x.magnitude
  let (m, e) := y.magnitude
  ofRatio? (x.negative != y.negative) (n * e) (d * m)

/-- The largest integer not above the quotient by a number other than zero. -/
def floorDiv (x y : Binary64) : Int :=
  let (n, d) := x.ratio
  let (m, e) := y.ratio
  Int.fdiv (n * e) (m * d)

end Binary64

end PrimitiveDesk
