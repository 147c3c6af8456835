import PrimitiveDesk.Json.Basic
import PrimitiveDesk.Text.Digit

/-!
# Scalars and the core schema

Only plain scalars take part in type resolution: the words of null and of the two truth values,
integers in three bases that fit 64 bits, and decimal numbers within the range of doubles. Every
other plain scalar, and every quoted or block scalar, is the string of its text.
-/

namespace PrimitiveDesk.Yaml

open Text

/-- How a scalar was written. -/
inductive ScalarKind where
  | plain
  | quoted
  | block
deriving DecidableEq, Repr

/-- A scalar, with quotes and escapes already resolved. -/
structure Scalar where
  text : String
  kind : ScalarKind
deriving DecidableEq, Repr

namespace Scalar

/-- The plain spellings of null. -/
def nullWords : List String := ["", "~", "null", "Null", "NULL"]

/-- The plain spellings of true. -/
def trueWords : List String := ["true", "True", "TRUE"]

/-- The plain spellings of false. -/
def falseWords : List String := ["false", "False", "FALSE"]

/-- Whether the scalar stands for null. -/
def isNull (s : Scalar) : Bool :=
  s.kind == .plain && nullWords.contains s.text

/-- An optional sign and what follows it. -/
def splitSign : List Char → Bool × List Char
  | '-' :: cs => (true, cs)
  | '+' :: cs => (false, cs)
  | cs => (false, cs)

/-- The integer that a text writes, of any size: an optional sign and decimal digits, or octal
digits behind `0o`, or hexadecimal digits behind `0x`. -/
def integer? (cs : List Char) : Option Int :=
  match cs with
  | '0' :: 'o' :: digits => (readNat? 8 digits).map Int.ofNat
  | '0' :: 'x' :: digits => (readNat? 16 digits).map Int.ofNat
  | cs =>
    let (negative, digits) := splitSign cs
    (readNat? 10 digits).map fun n => if negative then -(n : Int) else (n : Int)

/-- Whether an integer fits 64 bits. -/
def fits (n : Int) : Bool :=
  -Int.pow 2 63 ≤ n && n < Int.pow 2 63

/-- The exponent part that makes up all of a text, if it does. -/
def exponent? (cs : List Char) : Option Int :=
  match cs with
  | [] => some 0
  | c :: cs =>
    if c == 'e' || c == 'E' then
      let (negative, digits) := splitSign cs
      (readNat? 10 digits).map fun n => if negative then -(n : Int) else (n : Int)
    else none

/-- The double that a decimal number writes: digits with an optional point among or around them, at
least one digit in front of the point or behind it, and an optional exponent. -/
def decimal? (cs : List Char) : Option Binary64 :=
  let (negative, cs) := splitSign cs
  let whole := cs.takeWhile isAsciiDigit
  let (fraction, pointed, rest) := match cs.dropWhile isAsciiDigit with
    | '.' :: cs => (cs.takeWhile isAsciiDigit, true, cs.dropWhile isAsciiDigit)
    | cs => ([], false, cs)
  if whole.isEmpty && (!pointed || fraction.isEmpty) then none
  else
    match exponent? rest, readNat? 10 (whole ++ fraction) with
    | some e, some digits => Binary64.ofDecimal? negative digits (e - fraction.length)
    | _, _ => none

/-- The value of the text of a plain scalar. -/
def resolve (text : String) : Json :=
  if nullWords.contains text then .null
  else if trueWords.contains text then .bool true
  else if falseWords.contains text then .bool false
  else
    match (integer? text.toList).filter fits with
    | some n => .int n
    | none =>
      match decimal? text.toList with
      | some x => .float x
      | none => .str text

/-- The value of a scalar. -/
def toJson (s : Scalar) : Json :=
  if s.kind == .plain then resolve s.text else .str s.text

end Scalar

end PrimitiveDesk.Yaml
