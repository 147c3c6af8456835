import PrimitiveDesk.Number.Binary64
import PrimitiveDesk.Text.Digit

/-!
# The shortest decimal of a double

`Binary64.shortest` gives the fewest decimal digits that read back to the number, and of those the
nearest to it. Around a double lies the interval of reals that round to it; its ends count when the
significand is even. For one digit, two digits and so on the two neighbours of the number on that
decimal grid are tested, and the first grid with a hit wins.

`Binary64.text` lays the digits out; what differs between output formats is one `FloatStyle`.
-/

namespace PrimitiveDesk

namespace Binary64

/-- Whether `n / d` lies in the interval of reals that round to `x`, which must not be zero. -/
def roundsFrom (x : Binary64) (n d : Nat) : Bool :=
  -- in quarters of a unit in the last place
  let m := 4 * x.significand
  let low :=
    if x.significand == Nat.pow 2 52 && x.exponent != leastExponent then m - 1 else m - 2
  let high := m + 2
  let (sn, sd) := scaled n d (x.exponent - 2)
  if x.significand % 2 == 0 then low * sd ≤ sn && sn ≤ high * sd
  else low * sd < sn && sn < high * sd

/-- The least `k` in `from_, from_ + 1, …` with `d ≤ n * 10^k`, looking at most `fuel` steps. -/
def leadingZeros (n d : Nat) : Nat → Nat → Nat
  | 0, k => k
  | fuel + 1, k => if d ≤ n * Nat.pow 10 k then k else leadingZeros n d fuel (k + 1)

/-- The `p` with `10^(p-1) ≤ n / d < 10^p`, for a positive ratio of a double's size. -/
def decimalSize (n d : Nat) : Int :=
  if d ≤ n then ((Nat.toDigits 10 (n / d)).length : Int)
  else 1 - (leadingZeros n d 400 1 : Int)

/-- The shortest hit on the grids of `count`, `count + 1`, … digits: digits and power of ten. -/
def shortestFrom (x : Binary64) (n d : Nat) (size : Int) : Nat → Nat → Nat × Int
  | 0, count => (n / d, size - count)
  | fuel + 1, count =>
    let unit : Int := size - count
    -- the number in units of the grid is `gn / gd`
    let (gn, gd) :=
      if 0 ≤ unit then (n, d * Nat.pow 10 unit.toNat) else (n * Nat.pow 10 (-unit).toNat, d)
    let below := gn / gd
    let above := below + 1
    let back (k : Nat) : Nat × Nat :=
      if 0 ≤ unit then (k * Nat.pow 10 unit.toNat, 1) else (k, Nat.pow 10 (-unit).toNat)
    let hit (k : Nat) : Bool := x.roundsFrom (back k).1 (back k).2
    let r := gn % gd
    match hit below, hit above with
    | true, false => (below, unit)
    | false, true => (above, unit)
    | true, true =>
      if 2 * r < gd || (2 * r == gd && below % 2 == 0) then (below, unit) else (above, unit)
    | false, false => shortestFrom x n d size fuel (count + 1)

/-- Removes the zeros at the end of a number's digits, at most `fuel` of them. -/
def stripZeros : Nat → Nat × Int → Nat × Int
  | 0, r => r
  | fuel + 1, (digits, e) =>
    if digits != 0 && digits % 10 == 0 then stripZeros fuel (digits / 10, e + 1) else (digits, e)

/-- The fewest digits `k` and the power `e` such that `k * 10^e` reads back to the magnitude. -/
def shortest (x : Binary64) : Nat × Int :=
  if x.significand = 0 then (0, 0)
  else
    let (n, d) := x.magnitude
    stripZeros 400 (shortestFrom x n d (decimalSize n d) 17 1)

end Binary64

/-- How the digits of a double are laid out. -/
structure FloatStyle where
  /-- The decimal exponents that are written without an exponent part; none stands for all. -/
  positional? : Option (Int × Int)
  /-- Whether a positive exponent has a sign. -/
  plusSign : Bool

namespace FloatStyle

/-- Whether a number whose first digit has the given decimal exponent is written positionally. -/
def isPositional (style : FloatStyle) (e : Int) : Bool :=
  match style.positional? with
  | none => true
  | some (lo, hi) => lo ≤ e && e ≤ hi

/-- Every number is written positionally. -/
def plain : FloatStyle := ⟨none, false⟩

/-- Numbers from `1e-5` up to `1e16` are written positionally, and every exponent has a sign. -/
def compact : FloatStyle := ⟨some (-5, 15), true⟩

/-- Numbers from `1e-4` up to `1e16` are written positionally. -/
def brief : FloatStyle := ⟨some (-4, 15), false⟩

end FloatStyle

namespace Binary64

/-- The digits laid out around a decimal point that stands behind the first `point` digits, always
with a fraction. -/
def layoutPoint (digits : List Char) (point : Int) : List Char :=
  let n : Int := digits.length
  if point ≤ 0 then '0' :: '.' :: (List.replicate (-point).toNat '0' ++ digits)
  else if n ≤ point then digits ++ List.replicate (point - n).toNat '0' ++ ['.', '0']
  else digits.take point.toNat ++ '.' :: digits.drop point.toNat

/-- The digits as one digit, an optional fraction and an exponent. -/
def layoutExponent (plusSign : Bool) (digits : List Char) (e : Int) : List Char :=
  let mantissa := match digits with
    | [] => []
    | [c] => [c]
    | c :: cs => c :: '.' :: cs
  let sign := if e < 0 then ['-'] else if plusSign then ['+'] else []
  mantissa ++ 'e' :: sign ++ Nat.toDigits 10 e.natAbs

/-- The text of a double in a style. -/
def text (style : FloatStyle) (x : Binary64) : String :=
  let (k, e) := x.shortest
  let digits := Nat.toDigits 10 k
  let point : Int := (digits.length : Int) + e
  let body :=
    if k = 0 || style.isPositional (point - 1) then layoutPoint digits point
    else layoutExponent style.plusSign digits (point - 1)
  String.ofList (if x.negative then '-' :: body else body)

end Binary64

end PrimitiveDesk
