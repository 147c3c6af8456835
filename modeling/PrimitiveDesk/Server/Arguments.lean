import PrimitiveDesk.Json.Decode
import PrimitiveDesk.Server.Uri
import PrimitiveDesk.Text.LineIndex

/-!
# Arguments of commands

The commands of the editor take the address of a document and a position in it.
-/

namespace PrimitiveDesk

/-- Decodes an address. -/
def Uri.decode : Json → Except DecodeError Uri
  | .str s =>
    match ofText s with
    | .ok u => .ok u
    | .error e => .error (.malformed e.message s)
  | j => .error (.invalidType j "a string representing an URL")

namespace Position

/-- Decodes a number of lines or characters. -/
def decodeCount (j : Json) : Except DecodeError Nat :=
  j.decodeNat (Nat.pow 2 32) "u32"

/-- Decodes the members of a position in the order in which they stand. -/
def decodeMembers (line? character? : Option Nat) :
    Json.Members → Except DecodeError (Option Nat × Option Nat)
  | [] => .ok (line?, character?)
  | (name, value) :: rest =>
    if name == "line" then
      match decodeCount value with
      | .ok n => decodeMembers (some n) character? rest
      | .error e => .error e
    else if name == "character" then
      match decodeCount value with
      | .ok n => decodeMembers line? (some n) rest
      | .error e => .error e
    else decodeMembers line? character? rest

/-- Decodes a position: an object, or an array of its two numbers. -/
def decode : Json → Except DecodeError Position
  | .obj members =>
    match decodeMembers none none members with
    | .error e => .error e
    | .ok (none, _) => .error (.missingField "line")
    | .ok (some _, none) => .error (.missingField "character")
    | .ok (some line, some character) => .ok ⟨line, character⟩
  | .arr [] => .error (.invalidLength 0 "struct Position with 2 elements")
  | .arr [l] =>
    match decodeCount l with
    | .error e => .error e
    | .ok _ => .error (.invalidLength 1 "struct Position with 2 elements")
  | .arr (l :: c :: rest) =>
    match decodeCount l, decodeCount c with
    | .error e, _ => .error e
    | .ok _, .error e => .error e
    | .ok line, .ok character =>
      if rest.isEmpty then .ok ⟨line, character⟩
      else .error (.invalidLength (rest.length + 2) "fewer elements in array")
  | j => .error (.invalidType j "struct Position")

end Position

/-- Why the arguments of a command are refused. -/
inductive ArgumentError where
  | tooFew
  | unknownCommand (name : String)
  | notDecoded (error : DecodeError)
deriving Inhabited, Repr

/-- The wording of an error. -/
def ArgumentError.message : ArgumentError → String
  | tooFew => "expected [uri, position]"
  | unknownCommand name => "unknown command \x60" ++ name ++ "\x60"
  | notDecoded e => e.message

/-- The address and the position that a command is given; further arguments are ignored. -/
def decodeLocation : List Json → Except ArgumentError (Uri × Position)
  | uri :: position :: _ =>
    match Uri.decode uri with
    | .error e => .error (.notDecoded e)
    | .ok uri =>
      match Position.decode position with
      | .error e => .error (.notDecoded e)
      | .ok position => .ok (uri, position)
  | _ => .error .tooFew

end PrimitiveDesk
