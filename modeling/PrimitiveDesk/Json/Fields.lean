import PrimitiveDesk.Json.Reader

/-!
# Reading the fields of a JSON object

`Json.fields?` reads the members of an object that have certain names. Of all other members only the
form matters: their values need not fit any number, and the escapes in their strings need not name
characters.
-/

namespace PrimitiveDesk.Json

open Text

/-- Passes over a string behind its opening quote. -/
def skipString? : Nat → List Char → Option (List Char)
  | 0, _ => none
  | fuel + 1, cs =>
    match cs with
    | '"' :: rest => some rest
    | '\\' :: 'u' :: rest => (readHex4? rest).bind fun (_, rest) => skipString? fuel rest
    | '\\' :: e :: rest => if (simpleEscape? e).isSome then skipString? fuel rest else none
    | c :: rest => if c.toNat < 0x20 then none else skipString? fuel rest
    | [] => none

mutual

/-- Passes over a value; leading space is skipped. Every call reads a character before the next one,
so the length of the text is enough fuel. -/
def skipValue? : Nat → List Char → Option (List Char)
  | 0, _ => none
  | fuel + 1, cs =>
    match skipSpace cs with
    | '\x7b' :: rest =>
      match skipSpace rest with
      | '\x7d' :: rest => some rest
      | rest => skipMembers? fuel rest
    | '[' :: rest =>
      match skipSpace rest with
      | ']' :: rest => some rest
      | rest => skipItems? fuel rest
    | '"' :: rest => skipString? (rest.length + 1) rest
    | 't' :: 'r' :: 'u' :: 'e' :: rest => some rest
    | 'f' :: 'a' :: 'l' :: 's' :: 'e' :: rest => some rest
    | 'n' :: 'u' :: 'l' :: 'l' :: rest => some rest
    | rest => (readNumeral? rest).map (·.2)

/-- Passes over the items of an array behind its bracket. -/
def skipItems? : Nat → List Char → Option (List Char)
  | 0, _ => none
  | fuel + 1, cs =>
    match skipValue? fuel cs with
    | none => none
    | some rest =>
      match skipSpace rest with
      | ',' :: rest => skipItems? fuel rest
      | ']' :: rest => some rest
      | _ => none

/-- Passes over the members of an object behind its brace. -/
def skipMembers? : Nat → List Char → Option (List Char)
  | 0, _ => none
  | fuel + 1, cs =>
    match skipSpace cs with
    | '"' :: rest =>
      match (skipString? (rest.length + 1) rest).map skipSpace with
      | some (':' :: rest) =>
        match (skipValue? fuel rest).map skipSpace with
        | some (',' :: rest) => skipMembers? fuel rest
        | some ('\x7d' :: rest) => some rest
        | _ => none
      | _ => none
    | _ => none

end

/-- Reads the value of a member that is wanted, and passes over any other. -/
def readWanted? (wanted : Bool) (name : String) (cs : List Char) :
    Option (Members × List Char) :=
  let fuel := 2 * cs.length + 2
  if wanted then (readValue? fuel cs).map fun (j, rest) => ([(name, j)], rest)
  else (skipValue? fuel cs).map fun rest => ([], rest)

/-- Reads the wanted members of an object behind its brace; `acc` holds those read, latest first. -/
def readFields? (wanted : String → Bool) : Nat → Members → List Char →
    Option (Members × List Char)
  | 0, _, _ => none
  | fuel + 1, acc, cs =>
    match skipSpace cs with
    | '"' :: rest =>
      match readString? (rest.length + 1) [] rest with
      | none => none
      | some (name, rest) =>
        match skipSpace rest with
        | ':' :: rest =>
          match readWanted? (wanted name) name rest with
          | none => none
          | some (member, rest) =>
            match skipSpace rest with
            | ',' :: rest => readFields? wanted fuel (member ++ acc) rest
            | '\x7d' :: rest => some ((member ++ acc).reverse, rest)
            | _ => none
        | _ => none
    | _ => none

/-- The members with wanted names, repeated ones included, of a text that holds one object and
nothing else. -/
def fields? (wanted : String → Bool) (text : String) : Option Members :=
  let ended (r : Members × List Char) : Option Members :=
    if (skipSpace r.2).isEmpty then some r.1 else none
  match skipSpace text.toList with
  | '\x7b' :: rest =>
    match skipSpace rest with
    | '\x7d' :: rest => ended ([], rest)
    | rest => (readFields? wanted (rest.length + 1) [] rest).bind ended
  | _ => none

end PrimitiveDesk.Json
