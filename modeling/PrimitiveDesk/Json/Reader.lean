import PrimitiveDesk.Json.Basic
import PrimitiveDesk.Text.Digit

/-!
# Reading JSON

`Json.parse?` reads one value that fills the whole text. An integer that fits 64 bits stays an
integer; every other number is the nearest double, and one beyond the largest double makes the text
no JSON. Members are kept as written, repeated names included, so that a reader of a fixed set of
fields can refuse repetitions; `Assoc.ofList` gives the usual meaning of an object.
-/

namespace PrimitiveDesk.Json

open Text

/-- Whether a character may stand between the tokens of a JSON text. -/
def isSpace (c : Char) : Bool :=
  c == ' ' || c == '\n' || c == '\t' || c == '\r'

/-- The text behind leading space. -/
def skipSpace (cs : List Char) : List Char :=
  cs.dropWhile isSpace

/-- The value of four hexadecimal digits. -/
def readHex4? : List Char → Option (Nat × List Char)
  | a :: b :: c :: d :: rest => (readDigits? 16 0 [a, b, c, d]).map fun n => (n, rest)
  | _ => none

/-- The character behind an escape `\u`. A high surrogate needs a low one behind it. -/
def readUnicode? (cs : List Char) : Option (Char × List Char) :=
  match readHex4? cs with
  | none => none
  | some (hi, rest) =>
    if 0xDC00 ≤ hi && hi < 0xE000 then none
    else if 0xD800 ≤ hi && hi < 0xDC00 then
      match rest with
      | '\\' :: 'u' :: rest =>
        match readHex4? rest with
        | some (lo, rest) =>
          if 0xDC00 ≤ lo && lo < 0xE000 then
            some (Char.ofNat (0x10000 + (hi - 0xD800) * 0x400 + (lo - 0xDC00)), rest)
          else none
        | none => none
      | _ => none
    else some (Char.ofNat hi, rest)

/-- The meaning of a one-letter escape. -/
def simpleEscape? : Char → Option Char
  | '"' => some '"'
  | '\\' => some '\\'
  | '/' => some '/'
  | 'b' => some '\x08'
  | 'f' => some '\x0c'
  | 'n' => some '\n'
  | 'r' => some '\r'
  | 't' => some '\t'
  | _ => none

/-- Reads a string behind its opening quote; `acc` holds what was read, latest first. Each step
reads a character, so the length of the text is enough fuel. -/
def readString? : Nat → List Char → List Char → Option (String × List Char)
  | 0, _, _ => none
  | fuel + 1, acc, cs =>
    match cs with
    | '"' :: rest => some (String.ofList acc.reverse, rest)
    | '\\' :: 'u' :: rest =>
      match readUnicode? rest with
      | some (c, rest) => readString? fuel (c :: acc) rest
      | none => none
    | '\\' :: e :: rest =>
      match simpleEscape? e with
      | some c => readString? fuel (c :: acc) rest
      | none => none
    | c :: rest => if c.toNat < 0x20 then none else readString? fuel (c :: acc) rest
    | [] => none

/-- The integer part of a number: no zero before further digits. -/
def readInteger? (cs : List Char) : Option (List Char × List Char) :=
  match cs.takeWhile isAsciiDigit, cs.dropWhile isAsciiDigit with
  | [], _ => none
  | '0' :: _ :: _, _ => none
  | ds, rest => some (ds, rest)

/-- The digits of an optional part that starts with the given characters. -/
def readDigitsRun? (cs : List Char) : Option (List Char × List Char) :=
  match cs.takeWhile isAsciiDigit with
  | [] => none
  | ds => some (ds, cs.dropWhile isAsciiDigit)

/-- The value of a run of decimal digits. -/
def digitsValue (ds : List Char) : Nat :=
  (readDigits? 10 0 ds).getD 0

/-- An optional exponent part; none if it has no digits. -/
def readExponent? (cs : List Char) : Option (Option Int × List Char) :=
  match cs with
  | c :: rest =>
    if c == 'e' || c == 'E' then
      let (negative, rest) := match rest with
        | '-' :: r => (true, r)
        | '+' :: r => (false, r)
        | r => (false, r)
      (readDigitsRun? rest).map fun (ds, rest) =>
        let n : Int := digitsValue ds
        (some (if negative then -n else n), rest)
    else some (none, cs)
  | [] => some (none, [])

/-- A number as it is written. -/
structure Numeral where
  negative : Bool
  /-- The digits in front of the point. -/
  whole : List Char
  /-- The digits behind the point, if any. -/
  fraction : List Char
  exponent? : Option Int

/-- The value of a numeral: none beyond the largest double. -/
def Numeral.value? (n : Numeral) : Option Json :=
  let float (_ : Unit) := (Binary64.ofDecimal? n.negative (digitsValue (n.whole ++ n.fraction))
    (n.exponent?.getD 0 - n.fraction.length)).map Json.float
  if n.fraction.isEmpty && n.exponent?.isNone then
    let k := digitsValue n.whole
    if n.negative then (if 0 < k && k ≤ Nat.pow 2 63 then some (.int (-(k : Int))) else float ())
    else if k < Nat.pow 2 64 then some (.int k) else float ()
  else float ()

/-- Reads a numeral. -/
def readNumeral? (cs : List Char) : Option (Numeral × List Char) :=
  let (negative, cs) := match cs with
    | '-' :: rest => (true, rest)
    | cs => (false, cs)
  match readInteger? cs with
  | none => none
  | some (whole, rest) =>
    let fraction? := match rest with
      | '.' :: r => readDigitsRun? r
      | r => some ([], r)
    match fraction? with
    | none => none
    | some (fraction, rest) =>
      (readExponent? rest).map fun (exponent?, rest) =>
        (⟨negative, whole, fraction, exponent?⟩, rest)

/-- Reads a number. -/
def readNumber? (cs : List Char) : Option (Json × List Char) :=
  match readNumeral? cs with
  | none => none
  | some (n, rest) => n.value?.map fun j => (j, rest)

mutual

/-- Reads a value; leading space is skipped. Every call reads a character before the next one, so
the length of the text is enough fuel. -/
def readValue? : Nat → List Char → Option (Json × List Char)
  | 0, _ => none
  | fuel + 1, cs =>
    match skipSpace cs with
    | '\x7b' :: rest =>
      match skipSpace rest with
      | '\x7d' :: rest => some (.obj [], rest)
      | rest => (readMembers? fuel [] rest).map fun (ms, rest) => (.obj ms, rest)
    | '[' :: rest =>
      match skipSpace rest with
      | ']' :: rest => some (.arr [], rest)
      | rest => (readItems? fuel [] rest).map fun (js, rest) => (.arr js, rest)
    | '"' :: rest => (readString? (rest.length + 1) [] rest).map fun (s, rest) => (.str s, rest)
    | 't' :: 'r' :: 'u' :: 'e' :: rest => some (.bool true, rest)
    | 'f' :: 'a' :: 'l' :: 's' :: 'e' :: rest => some (.bool false, rest)
    | 'n' :: 'u' :: 'l' :: 'l' :: rest => some (.null, rest)
    | rest => readNumber? rest

/-- Reads the items of an array behind its bracket; `acc` holds those read, latest first. -/
def readItems? : Nat → List Json → List Char → Option (List Json × List Char)
  | 0, _, _ => none
  | fuel + 1, acc, cs =>
    match readValue? fuel cs with
    | none => none
    | some (j, rest) =>
      match skipSpace rest with
      | ',' :: rest => readItems? fuel (j :: acc) rest
      | ']' :: rest => some ((j :: acc).reverse, rest)
      | _ => none

/-- Reads the members of an object behind its brace; `acc` holds those read, latest first. -/
def readMembers? : Nat → Members → List Char → Option (Members × List Char)
  | 0, _, _ => none
  | fuel + 1, acc, cs =>
    match skipSpace cs with
    | '"' :: rest =>
      match readString? (rest.length + 1) [] rest with
      | none => none
      | some (name, rest) =>
        match skipSpace rest with
        | ':' :: rest =>
          match readValue? fuel rest with
          | none => none
          | some (j, rest) =>
            match skipSpace rest with
            | ',' :: rest => readMembers? fuel ((name, j) :: acc) rest
            | '\x7d' :: rest => some (((name, j) :: acc).reverse, rest)
            | _ => none
        | _ => none
    | _ => none

end

/-- Reads a text that holds one value and nothing else. -/
def parse? (text : String) : Option Json :=
  let cs := text.toList
  match readValue? (2 * cs.length + 2) cs with
  | some (j, rest) => if (skipSpace rest).isEmpty then some j else none
  | none => none

end PrimitiveDesk.Json
