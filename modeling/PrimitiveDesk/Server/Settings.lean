import PrimitiveDesk.Json.Decode
import PrimitiveDesk.Json.Fields

/-!
# Settings

The settings of an editing session. They come from a configuration file (`Settings.ofFile`) and are
overridden field by field by the options of a client (`Settings.overriddenBy`). Fields that are not
settings are ignored.
-/

namespace PrimitiveDesk

/-- The settings of a session. -/
structure Settings where
  /-- The interpreter that runs the generator. -/
  interpreter : String
  /-- Spaces for one level of indentation. -/
  indentUnit : Nat
  /-- The folder of builds below the root of a project, if it is not the one of its profile. -/
  buildFolder? : Option String
  /-- Whether builds may start the generator. -/
  daemonEnabled : Bool
deriving DecidableEq, Repr, Inhabited

namespace Settings

/-- What holds unless it is set. -/
def default : Settings := ⟨"python3", 2, none, true⟩

/-- The names of the settings, in order of declaration. -/
def fieldNames : List String :=
  ["pythonInterpreter", "indentUnit", "buildDirName", "enableDaemon"]

/-- One level of indentation; there is always some. -/
def indent (s : Settings) : String :=
  String.ofList (List.replicate (max s.indentUnit 1) ' ')

/-- Sets the setting of the given name; any other name is ignored. -/
def setField (s : Settings) (name : String) (value : Json) : Except DecodeError Settings :=
  match name with
  | "pythonInterpreter" => value.decodeString.map fun v => { s with interpreter := v }
  | "indentUnit" =>
    (value.decodeNat (Nat.pow 2 64) "usize").map fun v => { s with indentUnit := v }
  | "buildDirName" =>
    (value.decodeOption Json.decodeString).map fun v => { s with buildFolder? := v }
  | "enableDaemon" => value.decodeBool.map fun v => { s with daemonEnabled := v }
  | _ => .ok s

/-- Sets the settings of the given names to the members that have these names. -/
def setMembers (s : Settings) (members : Json.Members) : List String → Except DecodeError Settings
  | [] => .ok s
  | name :: rest =>
    match Assoc.find? members name with
    | none => s.setMembers members rest
    | some value =>
      match s.setField name value with
      | .ok s => s.setMembers members rest
      | .error e => .error e

/-- Overrides settings by the options of a client. Options that are no object change nothing; the
first setting that does not fit, in order of declaration, is reported. -/
def overriddenBy (s : Settings) : Json → Except DecodeError Settings
  | .obj members => s.setMembers members fieldNames
  | _ => .ok s

/-- The wording of the error of an override. -/
def overrideMessage (e : DecodeError) : String :=
  "invalid initialization options: " ++ e.message

/-- The settings given by members, none of which may be repeated. -/
def ofMembers? (members : Json.Members) : Option Settings :=
  if (Assoc.names members).eraseDups.length = members.length then
    (default.setMembers members fieldNames).toOption
  else none

/-- The settings of a configuration file. It holds an object, in which no setting is repeated, or an
array of the first settings in order of declaration. -/
def ofFile? (content : String) : Option Settings :=
  match Json.fields? fieldNames.contains content with
  | some members => ofMembers? members
  | none =>
    match Json.parse? content with
    | some (.arr values) =>
      if values.length ≤ fieldNames.length then ofMembers? (fieldNames.zip values) else none
    | _ => none

end Settings

end PrimitiveDesk
