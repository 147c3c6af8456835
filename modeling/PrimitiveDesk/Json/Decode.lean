import PrimitiveDesk.Json.Basic
import PrimitiveDesk.Number.Shortest
import PrimitiveDesk.Text.Quoted

/-!
# Decoding JSON

Values of fixed types read from JSON. A value that does not fit is reported with what was found and
what was expected (`DecodeError`).
-/

namespace PrimitiveDesk

/-- Why a value cannot be decoded. -/
inductive DecodeError where
  /-- A value of another type. -/
  | invalidType (found : Json) (expected : String)
  /-- A value of the right type that is out of bounds. -/
  | invalidValue (found : Json) (expected : String)
  | missingField (name : String)
  | invalidLength (length : Nat) (expected : String)
  /-- A text that does not follow its format. -/
  | malformed (reason text : String)
deriving Inhabited, Repr

namespace Json

/-- A value as error messages name it. -/
def described : Json → String
  | null => "null"
  | bool b => "boolean `" ++ (if b then "true" else "false") ++ "`"
  | int n => "integer `" ++ Text.decimalInt n ++ "`"
  | float x => "floating point `" ++ x.text .compact ++ "`"
  | str s => "string " ++ Text.quoted s
  | arr _ => "sequence"
  | obj _ => "map"

end Json

namespace DecodeError

/-- The wording of an error. -/
def message : DecodeError → String
  | invalidType found expected => "invalid type: " ++ found.described ++ ", expected " ++ expected
  | invalidValue found expected => "invalid value: " ++ found.described ++ ", expected " ++ expected
  | missingField name => "missing field `" ++ name ++ "`"
  | invalidLength n expected => "invalid length " ++ Text.decimal n ++ ", expected " ++ expected
  | malformed reason text => reason ++ ": " ++ Text.quoted text

end DecodeError

namespace Json

/-- A string. -/
def decodeString : Json → Except DecodeError String
  | str s => .ok s
  | j => .error (.invalidType j "a string")

/-- A truth value. -/
def decodeBool : Json → Except DecodeError Bool
  | bool b => .ok b
  | j => .error (.invalidType j "a boolean")

/-- A natural number below a limit. -/
def decodeNat (limit : Nat) (type : String) : Json → Except DecodeError Nat
  | int n =>
    if 0 ≤ n ∧ n < limit then .ok n.toNat else .error (.invalidValue (.int n) type)
  | j => .error (.invalidType j type)

/-- Null, or a value of another type. -/
def decodeOption {α : Type} (decode : Json → Except DecodeError α) :
    Json → Except DecodeError (Option α)
  | null => .ok none
  | j => (decode j).map some

end Json

end PrimitiveDesk
