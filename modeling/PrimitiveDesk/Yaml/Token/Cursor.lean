import PrimitiveDesk.Yaml.Fault

/-!
# Reading characters

A cursor is the unread part of a text together with its mark. It also knows whether only blanks
were read since the start of the line, which decides where tabs are allowed. The end of the text
counts as a blank and as a line break wherever one of them may follow.
-/

namespace PrimitiveDesk.Yaml

/-- Space or tab. -/
def isWhite (c : Char) : Bool := c == ' ' || c == '\t'

/-- Line feed or carriage return. -/
def isBreak (c : Char) : Bool := c == '\n' || c == '\r'

/-- An indicator of flow collections. -/
def isFlow (c : Char) : Bool :=
  c == ',' || c == '[' || c == ']' || c == '\x7b' || c == '\x7d'

/-- A letter, digit, underscore or hyphen of ASCII. -/
def isWord (c : Char) : Bool :=
  c.isAlphanum || c == '_' || c == '-'

/-- A character of a URI. -/
def isUri (c : Char) : Bool :=
  isWord c || "#;/?:@&=+$,_.!~*'()[]%".toList.contains c

/-- A character of a tag suffix. -/
def isTagChar (c : Char) : Bool :=
  isUri c && !isFlow c && c != '!'

/-- A character of an anchor name. -/
def isAnchorChar (c : Char) : Bool :=
  !isWhite c && !isBreak c && !isFlow c && c.toNat != 0xFEFF

/-- The character with a code, if the code is one of a character. -/
def charOf? (code : Nat) : Option Char :=
  if h : code.isValidChar then some (Char.ofNatAux code h) else none

/-- Whether the text ends or goes on with a blank or line break. -/
def endsWord : List Char → Bool
  | [] => true
  | c :: _ => isWhite c || isBreak c

/-- Whether the text ends or goes on with a line break. -/
def endsLine : List Char → Bool
  | [] => true
  | c :: _ => isBreak c

/-- Whether the text goes on with a flow indicator. -/
def startsFlow : List Char → Bool
  | [] => false
  | c :: _ => isFlow c

/-- Whether the text starts with a line `---`, as far as its next blank. -/
def startsDocument : List Char → Bool
  | '-' :: '-' :: '-' :: rest => endsWord rest
  | _ => false

/-- Whether the text starts with a line `...`, as far as its next blank. -/
def endsDocument : List Char → Bool
  | '.' :: '.' :: '.' :: rest => endsWord rest
  | _ => false

/-- Whether the text starts with a document marker. -/
def startsMarker (cs : List Char) : Bool :=
  startsDocument cs || endsDocument cs

/-- The unread part of a text. -/
structure Cursor where
  rest : List Char
  mark : Mark
  /-- Whether only blanks were read since the start of the line. -/
  fresh : Bool
deriving Repr

namespace Cursor

/-- The cursor at the start of a text. A null character ends the text. -/
def ofText (text : String) : Cursor :=
  ⟨text.toList.takeWhile (· != '\x00'), .start, true⟩

/-- The column as an integer, to be compared with indentations. -/
def column (c : Cursor) : Int :=
  c.mark.column

/-- Passes over `n` characters of a line that do not change whether the line is fresh. -/
def passBlanks (c : Cursor) (n : Nat) : Cursor :=
  { c with
    rest := c.rest.drop n
    mark := { c.mark with index := c.mark.index + n, column := c.mark.column + n } }

/-- Passes over `n` characters of a line that are content. -/
def pass (c : Cursor) (n : Nat) : Cursor :=
  { c.passBlanks n with fresh := false }

/-- Passes over one character that ends a line. -/
def passLineEnd (c : Cursor) : Cursor :=
  { rest := c.rest.drop 1
    mark := ⟨c.mark.index + 1, c.mark.line + 1, 0⟩
    fresh := true }

/-- Passes over a line break of one or two characters, if there is one. -/
def passBreak (c : Cursor) : Cursor :=
  match c.rest with
  | '\r' :: '\n' :: _ => (c.passBlanks 1).passLineEnd
  | ch :: _ => if isBreak ch then c.passLineEnd else c
  | [] => c

/-- Passes over the characters of the class, as blanks. -/
def passWhile (c : Cursor) (p : Char → Bool) : Cursor :=
  c.passBlanks (c.rest.takeWhile p).length

/-- Passes over the rest of the line. -/
def passLine (c : Cursor) : Cursor :=
  c.passWhile fun ch => !isBreak ch

/-- Stops reading with a fault at a mark. -/
def fail {α : Type} (m : Mark) (f : Fault) : Except ScanError α :=
  .error ⟨m, f⟩

/-- What `skipToLineEnd` met. -/
structure Skipped where
  cursor : Cursor
  tabs : Bool
  spaces : Bool

/-- Passes over blanks and a comment up to the line end or other content. Tabs are passed over only
if allowed, and a comment needs a blank before it. -/
def skipToLineEnd (c : Cursor) (allowTabs : Bool) : Except ScanError Skipped :=
  let blanks := c.rest.takeWhile fun ch => ch == ' ' || (allowTabs && ch == '\t')
  let tabs := blanks.contains '\t'
  let spaces := blanks.contains ' '
  let c := c.passBlanks blanks.length
  match c.rest with
  | '#' :: _ =>
    if tabs || spaces then .ok ⟨c.passLine, tabs, spaces⟩
    else fail c.mark .commentNotSeparated
  | _ => .ok ⟨c, tabs, spaces⟩

end Cursor

end PrimitiveDesk.Yaml
