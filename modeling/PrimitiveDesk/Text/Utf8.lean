/-!
# UTF-8

Texts as bytes and back. Bytes that are no UTF-8 can be read nevertheless: every longest run of
bytes that starts a character but does not end one, and every byte that starts none, becomes the
replacement character.
-/

namespace PrimitiveDesk

/-- Bytes, as files and pipes hold them. -/
abbrev Bytes := List UInt8

namespace Text

/-- The bytes of a character. -/
def encodeChar (c : Char) : Bytes :=
  let n := c.toNat
  if n < 0x80 then [n.toUInt8]
  else if n < 0x800 then [(0xC0 + n / 0x40).toUInt8, (0x80 + n % 0x40).toUInt8]
  else if n < 0x10000 then
    [(0xE0 + n / 0x1000).toUInt8, (0x80 + n / 0x40 % 0x40).toUInt8, (0x80 + n % 0x40).toUInt8]
  else
    [(0xF0 + n / 0x40000).toUInt8, (0x80 + n / 0x1000 % 0x40).toUInt8,
      (0x80 + n / 0x40 % 0x40).toUInt8, (0x80 + n % 0x40).toUInt8]

/-- The bytes of a text. -/
def encode (s : String) : Bytes :=
  s.toList.flatMap encodeChar

/-- What the first byte of a character tells: how many bytes follow, between which bounds the next
one lies, and the bits that it gives itself. -/
def leadByte? (b : UInt8) : Option (Nat × Nat × Nat × Nat) :=
  let n := b.toNat
  if n < 0x80 then some (0, 0, 0, n)
  else if 0xC2 ≤ n && n < 0xE0 then some (1, 0x80, 0xBF, n - 0xC0)
  else if n == 0xE0 then some (2, 0xA0, 0xBF, 0)
  else if n == 0xED then some (2, 0x80, 0x9F, 0xD)
  else if 0xE1 ≤ n && n < 0xF0 then some (2, 0x80, 0xBF, n - 0xE0)
  else if n == 0xF0 then some (3, 0x90, 0xBF, 0)
  else if 0xF1 ≤ n && n < 0xF4 then some (3, 0x80, 0xBF, n - 0xF0)
  else if n == 0xF4 then some (3, 0x80, 0x8F, 4)
  else none

/-- Reads the bytes that follow the first one of a character; none if one is missing or out of
bounds. Gives the code point with what is left behind the bytes that fit. -/
def continuation : Nat → Nat → Nat → Nat → Bytes → Option Nat × Bytes
  | 0, _, _, code, bs => (some code, bs)
  | count + 1, low, high, code, b :: bs =>
    if low ≤ b.toNat && b.toNat ≤ high then
      continuation count 0x80 0xBF (code * 0x40 + (b.toNat - 0x80)) bs
    else (none, b :: bs)
  | _ + 1, _, _, _, [] => (none, [])

/-- Reads characters; what is none is kept apart as `none`. -/
def decodeChars : Nat → Bytes → List (Option Char)
  | 0, _ => []
  | _ + 1, [] => []
  | fuel + 1, b :: bs =>
    match leadByte? b with
    | none => none :: decodeChars fuel bs
    | some (count, low, high, code) =>
      let (code?, rest) := continuation count low high code bs
      code?.map Char.ofNat :: decodeChars fuel rest

/-- The text of bytes; none if they are no UTF-8. -/
def decode? (bs : Bytes) : Option String :=
  ((decodeChars bs.length bs).mapM id).map String.ofList

/-- The text of bytes, with replacement characters for what is no UTF-8. -/
def decodeLossy (bs : Bytes) : String :=
  String.ofList ((decodeChars bs.length bs).map fun c => c.getD '�')

end Text

end PrimitiveDesk
