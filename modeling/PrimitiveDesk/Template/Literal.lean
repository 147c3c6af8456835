import PrimitiveDesk.Number.Extended
import PrimitiveDesk.Template.Fault
import PrimitiveDesk.Text.Digit

/-!
# Literals of templates

String literals with their escapes, and numerals. A string literal is cut out first and then freed
of its escapes: an unknown escape stands for itself, with its backslash. A numeral may have
underscores between its digits. The point behind its digits belongs to it unless a name follows.
-/

namespace PrimitiveDesk.Template

open Text

/-! ## Strings -/

/-- Splits a text at a quote that no backslash stands before. -/
def splitAtQuote (quote : Char) : List Char → Option (List Char × List Char)
  | [] => none
  | '\\' :: c :: cs => (splitAtQuote quote cs).map fun (body, rest) => ('\\' :: c :: body, rest)
  | c :: cs =>
    if c == quote then some ([], cs)
    else (splitAtQuote quote cs).map fun (body, rest) => (c :: body, rest)

/-- A part of a string literal: a character, or a unit of 16 bits, of which two may make one
character. -/
inductive Piece where
  | char (c : Char)
  | unit (n : Nat)
deriving DecidableEq, Repr

/-- The number that digits of a base stand for; a plus sign may stand before them. -/
def readRadix? (base : Nat) : List Char → Option Nat
  | '+' :: digits => readNat? base digits
  | digits => readNat? base digits

/-- The meaning of a letter behind a backslash. -/
def letterEscape? : Char → Option Char
  | '"' => some '"'
  | '\'' => some '\''
  | '\\' => some '\\'
  | '/' => some '/'
  | 'b' => some '\x08'
  | 'f' => some '\x0c'
  | 'n' => some '\n'
  | 'r' => some '\r'
  | 't' => some '\t'
  | _ => none

/-- Whether a character is a digit of base eight. -/
def isOctalDigit (c : Char) : Bool :=
  '0' ≤ c && c ≤ '7'

/-- Reads what stands behind a backslash: the parts it stands for, and what follows. -/
def readEscape? : List Char → Option (List Piece × List Char)
  | 'u' :: cs =>
    if cs.length < 4 then none
    else (readRadix? 16 (cs.take 4)).map fun n => ([.unit n], cs.drop 4)
  | 'x' :: cs =>
    if cs.length < 2 then none
    else (readRadix? 16 (cs.take 2)).map fun n => ([.char (Char.ofNat n)], cs.drop 2)
  | c :: cs =>
    if isOctalDigit c then
      let more := (cs.take 2).takeWhile isOctalDigit
      (readNat? 8 (c :: more)).bind fun n =>
        if n < 256 then some ([.char (Char.ofNat n)], cs.drop more.length) else none
    else
      match letterEscape? c with
      | some d => some ([.char d], cs)
      | none => some ([.char '\\', .char c], cs)
  | [] => none

/-- The parts of a string literal. Each step reads a character. -/
def readPieces? : Nat → List Char → Option (List Piece)
  | _, [] => some []
  | 0, _ => none
  | fuel + 1, '\\' :: cs =>
    match readEscape? cs with
    | some (pieces, rest) => (readPieces? fuel rest).map (pieces ++ ·)
    | none => none
  | fuel + 1, c :: cs => (readPieces? fuel cs).map (.char c :: ·)

/-- Whether a unit is one half of a character. -/
def isHalf (n : Nat) : Bool :=
  0xD800 ≤ n && n < 0xE000

/-- The text of the parts of a string literal. Halves need each other. -/
def assemble? : List Piece → Option (List Char)
  | [] => some []
  | .char c :: rest => (assemble? rest).map (c :: ·)
  | .unit n :: rest =>
    if !isHalf n then (assemble? rest).map (Char.ofNat n :: ·)
    else
      match rest with
      | .unit m :: rest =>
        if n < 0xDC00 && 0xDC00 ≤ m && m < 0xE000 then
          (assemble? rest).map
            (Char.ofNat (0x10000 + (n - 0xD800) * 0x400 + (m - 0xDC00)) :: ·)
        else none
      | _ => none

/-- The text of a string literal. -/
def unescape (body : List Char) : Except Fault String :=
  match (readPieces? (body.length + 1) body).bind assemble? with
  | some cs => .ok (String.ofList cs)
  | none => .error .badEscape

/-! ## Numerals -/

/-- The value of a numeral. -/
inductive Numeral where
  | whole (n : Nat)
  | double (x : Extended)
deriving DecidableEq, Repr

/-- Where in a numeral its reader is. -/
inductive NumeralPart where
  | whole
  /-- In the digits of a base of their own. -/
  | based
  | fraction
  /-- Behind the mark of the exponent. -/
  | exponent
  | exponentDigits
deriving DecidableEq, Repr

/-- The characters that start a name. -/
def isNameStart (c : Char) : Bool :=
  c.isAlpha || c == '_'

/-- Whether a character is the mark of an exponent. -/
def isExponentMark (c : Char) : Bool :=
  c == 'e' || c == 'E'

/-- Where a character leads to in a numeral; nowhere if it does not belong to it. -/
def NumeralPart.step? (base : Nat) (part : NumeralPart) (c : Char) (next? : Option Char) :
    Option NumeralPart :=
  if c == '_' then some part
  else if isAsciiDigit c then some (if part = .exponent then .exponentDigits else part)
  else
    match part with
    | .whole =>
      if c == '.' then
        (if next?.any fun d => isNameStart d && !isExponentMark d then none else some .fraction)
      else if isExponentMark c then some .exponent
      else none
    | .fraction => if isExponentMark c then some .exponent else none
    | .based => if base == 16 && isHexDigit c then some .based else none
    | .exponent => if c == '+' || c == '-' then some .exponentDigits else none
    | .exponentDigits => none

/-- The characters of a numeral, where it ends, and what follows. -/
def numeralSpan (base : Nat) (part : NumeralPart) :
    List Char → List Char × NumeralPart × List Char
  | [] => ([], part, [])
  | c :: cs =>
    match part.step? base c cs.head? with
    | some next =>
      let (taken, last, rest) := numeralSpan base next cs
      (c :: taken, last, rest)
    | none => ([], part, c :: cs)

/-- The base that a numeral names, and what follows. -/
def baseOf? : List Char → Option (Nat × List Char)
  | '0' :: c :: rest =>
    if c == 'b' || c == 'B' then some (2, rest)
    else if c == 'o' || c == 'O' then some (8, rest)
    else if c == 'x' || c == 'X' then some (16, rest)
    else none
  | _ => none

/-- The exponent behind its mark, with its sign. -/
def readExponent? : List Char → Option Int
  | '-' :: digits => (readNat? 10 digits).map fun n => -(n : Int)
  | '+' :: digits => (readNat? 10 digits).map fun n => (n : Int)
  | digits => (readNat? 10 digits).map fun n => (n : Int)

/-- The double that digits with a fraction or an exponent stand for. -/
def readDouble? (cs : List Char) : Option Extended :=
  let (mantissa, behind) := cs.span fun c => !isExponentMark c
  let (whole, point) := mantissa.span (· != '.')
  let fraction := point.drop 1
  let exponent? := match behind with
    | [] => some 0
    | _ :: exponent => readExponent? exponent
  match readNat? 10 (whole ++ fraction), exponent? with
  | some n, some e => some (.ofResult false (Binary64.ofDecimal? false n (e - fraction.length)))
  | _, _ => none

/-- Reads a numeral: its value, and what follows. One that is too large, or that ends with an
underscore or inside an exponent, has no value. -/
def readNumeral (cs : List Char) : Option Numeral × List Char :=
  let (base, cs, start) := match baseOf? cs with
    | some (base, rest) => (base, rest, NumeralPart.based)
    | none => (10, cs, NumeralPart.whole)
  let (taken, last, rest) := numeralSpan base start cs
  let digits := taken.filter (· != '_')
  let value? :=
    if taken.getLast? == some '_' then none
    else if last = .whole || last = .based then
      (readNat? base digits).bind fun n => if n < Nat.pow 2 128 then some (.whole n) else none
    else (readDouble? digits).map .double
  (value?, rest)

end PrimitiveDesk.Template
