import PrimitiveDesk.Server.Domain
import PrimitiveDesk.Text.Percent

/-!
# Hosts of addresses

A host is named by a domain or by a number. Numbers are read in all the ways in which they can be
written, and have one normal form each.
-/

namespace PrimitiveDesk

open Text

/-- Why a text is no address. -/
inductive UriError where
  | noScheme
  | emptyHost
  | invalidDomain
  | invalidCharacter
  | invalidPort
  | invalidIPv4
  | invalidIPv6
deriving DecidableEq, Repr, Inhabited

/-- The wording of an error. -/
def UriError.message : UriError → String
  | noScheme => "relative URL without a base"
  | emptyHost => "empty host"
  | invalidDomain => "invalid international domain name"
  | invalidCharacter => "invalid domain character"
  | invalidPort => "invalid port number"
  | invalidIPv4 => "invalid IPv4 address"
  | invalidIPv6 => "invalid IPv6 address"

/-- A host in its normal form. -/
inductive WebHost where
  | domain (name : String)
  | ipv4 (address : Nat)
  /-- Eight numbers of 16 bits. -/
  | ipv6 (pieces : List Nat)
deriving DecidableEq, Repr, Inhabited

/-! ## Numbers of four bytes -/

/-- A number of an IPv4 address: in base 16, 8 or 10, as its first digits tell. -/
def ipv4Number? : List Char → Option Nat
  | [] => none
  | '0' :: 'x' :: digits => if digits.isEmpty then some 0 else readNat? 16 digits
  | '0' :: 'X' :: digits => if digits.isEmpty then some 0 else readNat? 16 digits
  | '0' :: d :: digits => readNat? 8 (d :: digits)
  | digits => if digits.all isAsciiDigit then readNat? 10 digits else none

/-- The parts of a name between its points, without the empty one behind a point at the end. -/
def ipv4Parts (name : List Char) : List (List Char) :=
  let parts := name.splitOn '.'
  if parts.getLast? == some [] then parts.dropLast else parts

/-- Whether the last part of a name is a number, so that the name has to be an address. -/
def endsInNumber (name : List Char) : Bool :=
  match (ipv4Parts name).getLast? with
  | none => false
  | some last => (!last.isEmpty && last.all isAsciiDigit) || (ipv4Number? last).isSome

/-- The address of numbers: all but the last are single bytes, and the last fills the rest. -/
def ipv4OfNumbers? (numbers : List Nat) : Option Nat :=
  match numbers.reverse with
  | [] => none
  | last :: others =>
    if 4 < numbers.length || others.any (255 < ·) ||
        Nat.pow 256 (4 - others.length) ≤ last then none
    else
      let bytes := others.reverse.foldl (fun n b => n * 256 + b) 0
      some (bytes * Nat.pow 256 (4 - others.length) + last)

/-- Reads an IPv4 address. -/
def readIPv4? (name : List Char) : Option Nat :=
  ((ipv4Parts name).mapM ipv4Number?).bind ipv4OfNumbers?

/-- The text of an IPv4 address. -/
def ipv4Text (n : Nat) : String :=
  String.intercalate "."
    ([n / 16777216, n / 65536 % 256, n / 256 % 256, n % 256].map decimal)

/-! ## Numbers of sixteen bytes -/

/-- Reads a byte without zeros in front of it. -/
def readByte? (digits : List Char) : Option Nat :=
  match digits with
  | [] => none
  | '0' :: _ :: _ => none
  | digits =>
    if digits.all isAsciiDigit then (readNat? 10 digits).filter (· < 256) else none

/-- Reads four bytes at the end of an IPv6 address as two pieces. -/
def readTail? (cs : List Char) : Option (List Nat) :=
  match (cs.splitOn '.').mapM readByte? with
  | some [a, b, c, d] => some [a * 256 + b, c * 256 + d]
  | _ => none

/-- Reads pieces with colons between them; the last part may be four bytes. -/
def readPieces? : List (List Char) → Option (List Nat)
  | [] => some []
  | [part] =>
    if part.contains '.' then readTail? part
    else if part.length ≤ 4 then (readNat? 16 part).map ([·])
    else none
  | part :: parts =>
    match if part.length ≤ 4 then readNat? 16 part else none, readPieces? parts with
    | some n, some rest => some (n :: rest)
    | _, _ => none

/-- Splits a text at its first double colon. -/
def splitAtGap : List Char → List Char × Option (List Char)
  | ':' :: ':' :: rest => ([], some rest)
  | c :: cs =>
    let (front, back) := splitAtGap cs
    (c :: front, back)
  | [] => ([], none)

/-- Reads the pieces on one side of a gap, of which there may be none. -/
def readSide? (cs : List Char) : Option (List Nat) :=
  if cs.isEmpty then some [] else readPieces? (cs.splitOn ':')

/-- Reads an IPv6 address; a double colon stands for pieces that are zero. -/
def readIPv6? (cs : List Char) : Option (List Nat) :=
  match splitAtGap cs with
  | (front, none) => (readPieces? (front.splitOn ':')).filter (·.length = 8)
  | (front, some back) =>
    match if front.contains '.' then none else readSide? front, readSide? back with
    | some xs, some ys =>
      if xs.length + ys.length ≤ 7 then
        some (xs ++ List.replicate (8 - xs.length - ys.length) 0 ++ ys)
      else none
    | _, _ => none

/-- The first of the longest runs of zeros, as its place and length; single zeros do not count. -/
def longestGap (pieces : List Nat) : Option (Nat × Nat) :=
  let runs := (List.range 8).map fun i => (i, ((pieces.drop i).takeWhile (· == 0)).length)
  runs.foldl (fun best r => if (best.map (·.2)).getD 1 < r.2 then some r else best) none

/-- The text of an IPv6 address. -/
def ipv6Text (pieces : List Nat) : String :=
  let side (ps : List Nat) : String :=
    String.intercalate ":" (ps.map fun p => String.ofList (Nat.toDigits 16 p))
  match longestGap pieces with
  | some (start, length) =>
    side (pieces.take start) ++ "::" ++ side (pieces.drop (start + length))
  | none => side pieces

namespace WebHost

/-- The text of a host. -/
def text : WebHost → String
  | domain name => name
  | ipv4 n => ipv4Text n
  | ipv6 pieces => "[" ++ ipv6Text pieces ++ "]"

/-- Reads an address in brackets. -/
def ofBrackets (cs : List Char) : Except UriError WebHost :=
  if cs.getLast? == some ']' then
    match readIPv6? (cs.drop 1).dropLast with
    | some pieces => .ok (ipv6 pieces)
    | none => .error .invalidIPv6
  else .error .invalidIPv6

/-- Reads a host that is a domain or an address. -/
def ofName (cs : List Char) : Except UriError WebHost :=
  if cs.head? == some '[' then ofBrackets cs
  else
    match (decode? (percentDecode cs)).bind fun name => Domain.normalize? name.toList with
    | none => .error .invalidDomain
    | some [] => .error .emptyHost
    | some name =>
      if endsInNumber name then
        match readIPv4? name with
        | some n => .ok (ipv4 n)
        | none => .error .invalidIPv4
      else .ok (domain (String.ofList name))

/-- Characters that no host has whose name is kept as it is written. -/
def nameForbidden : List Char :=
  ['\x00', '\t', '\n', '\r', ' ', '#', '/', ':', '<', '>', '?', '@', '[', '\\', ']', '^', '|']

/-- Reads a host whose name is kept as it is written. -/
def ofOpaque (cs : List Char) : Except UriError WebHost :=
  if cs.head? == some '[' then ofBrackets cs
  else if cs.any nameForbidden.contains then .error .invalidCharacter
  else .ok (domain (String.ofList (percentEncode [] cs)))

end WebHost

end PrimitiveDesk
