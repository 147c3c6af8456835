import PrimitiveDesk.Text.Digit
import PrimitiveDesk.Text.Utf8

/-!
# Percent encoding

Characters that a part of an address cannot hold are written as the bytes of their UTF-8 form, each
as a percent sign with two hexadecimal digits.
-/

namespace PrimitiveDesk.Text

/-- The encoded form of a byte. -/
def percentByte (b : UInt8) : List Char :=
  let digit (n : Nat) : Char := Char.ofNat (if n < 10 then 48 + n else 55 + n)
  ['%', digit (b.toNat / 16), digit (b.toNat % 16)]

/-- Whether a character is encoded everywhere: a control, or no ASCII. -/
def isAlwaysEncoded (c : Char) : Bool :=
  c.toNat < 0x20 || 0x7E < c.toNat

/-- Encodes those characters that are always encoded or stand in `reserved`. -/
def percentEncode (reserved : List Char) (cs : List Char) : List Char :=
  cs.flatMap fun c =>
    if isAlwaysEncoded c || reserved.contains c then (encodeChar c).flatMap percentByte else [c]

/-- The bytes of an encoded text; a percent sign without two digits stands for itself. -/
def percentDecode : List Char → Bytes
  | '%' :: a :: b :: rest =>
    match if isHexDigit a && isHexDigit b then readNat? 16 [a, b] else none with
    | some n => n.toUInt8 :: percentDecode rest
    | none => 0x25 :: percentDecode (a :: b :: rest)
  | c :: rest => encodeChar c ++ percentDecode rest
  | [] => []

end PrimitiveDesk.Text
