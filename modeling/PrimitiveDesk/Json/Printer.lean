import PrimitiveDesk.Json.Basic
import PrimitiveDesk.Number.Shortest

/-!
# JSON text

`Json.compact` writes a value without any spaces; `Json.pretty` puts every member and item on a line
of its own, two spaces deeper than its parent. Both escape quotes, backslashes and the control
characters below the space, and nothing else.
-/

namespace PrimitiveDesk.Json

/-- A hexadecimal digit in lower case. -/
def hexDigit (n : Nat) : Char :=
  Char.ofNat (if n < 10 then 48 + n else 87 + n)

/-- A character as it stands inside a JSON string. -/
def escapeChar (c : Char) : List Char :=
  match c with
  | '"' => ['\\', '"']
  | '\\' => ['\\', '\\']
  | '\n' => ['\\', 'n']
  | '\r' => ['\\', 'r']
  | '\t' => ['\\', 't']
  | '\x08' => ['\\', 'b']
  | '\x0c' => ['\\', 'f']
  | c =>
    if c.toNat < 0x20 then
      ['\\', 'u', '0', '0', hexDigit (c.toNat / 16), hexDigit (c.toNat % 16)]
    else [c]

/-- A string in quotes. -/
def quote (s : String) : String :=
  String.ofList ('"' :: s.toList.flatMap escapeChar ++ ['"'])

/-- The text of a value that is neither an array nor an object. -/
def scalarText : Json → String
  | .bool true => "true"
  | .bool false => "false"
  | .int n => Text.decimalInt n
  | .float x => x.text .compact
  | .str s => quote s
  | _ => "null"

mutual

/-- The value on one line without spaces. -/
def compact : Json → String
  | .arr items => "[" ++ compactItems items ++ "]"
  | .obj members => "\x7b" ++ compactMembers members ++ "\x7d"
  | j => scalarText j

/-- Items with commas between them. -/
def compactItems : List Json → String
  | [] => ""
  | [j] => compact j
  | j :: js => compact j ++ "," ++ compactItems js

/-- Members with commas between them. -/
def compactMembers : Members → String
  | [] => ""
  | [(n, v)] => quote n ++ ":" ++ compact v
  | (n, v) :: ms => quote n ++ ":" ++ compact v ++ "," ++ compactMembers ms

end

/-- The start of a line at a depth. -/
def indentLine (depth : Nat) : String :=
  "\n" ++ String.ofList (List.replicate (2 * depth) ' ')

mutual

/-- The value over several lines, whose first line stands at the given depth. -/
def prettyAt (depth : Nat) : Json → String
  | .arr [] => "[]"
  | .obj [] => "\x7b\x7d"
  | .arr items => "[" ++ prettyItems (depth + 1) items ++ indentLine depth ++ "]"
  | .obj members => "\x7b" ++ prettyMembers (depth + 1) members ++ indentLine depth ++ "\x7d"
  | j => scalarText j

/-- Items, each on lines of its own. -/
def prettyItems (depth : Nat) : List Json → String
  | [] => ""
  | [j] => indentLine depth ++ prettyAt depth j
  | j :: js => indentLine depth ++ prettyAt depth j ++ "," ++ prettyItems depth js

/-- Members, each on lines of its own. -/
def prettyMembers (depth : Nat) : Members → String
  | [] => ""
  | [(n, v)] => indentLine depth ++ quote n ++ ": " ++ prettyAt depth v
  | (n, v) :: ms =>
    indentLine depth ++ quote n ++ ": " ++ prettyAt depth v ++ "," ++ prettyMembers depth ms

end

/-- The value over several lines. -/
def pretty (j : Json) : String :=
  prettyAt 0 j

end PrimitiveDesk.Json
