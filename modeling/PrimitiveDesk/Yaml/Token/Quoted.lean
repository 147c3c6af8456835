import PrimitiveDesk.Yaml.Token
import PrimitiveDesk.Yaml.Token.Cursor

/-!
# Quoted scalars

Scalars in single or double quotes. Line breaks inside them fold: one break becomes a space, each
further one a line feed. In double quotes a backslash escapes a character or a line break.
-/

namespace PrimitiveDesk.Yaml.Quoted

open Text Cursor

/-- The character named by a one-letter escape. -/
def escape? : Char → Option Char
  | '0' => some '\x00'
  | 'a' => some '\x07'
  | 'b' => some '\x08'
  | 't' => some '\t'
  | '\t' => some '\t'
  | 'n' => some '\n'
  | 'v' => some '\x0b'
  | 'f' => some '\x0c'
  | 'r' => some '\r'
  | 'e' => some '\x1b'
  | ' ' => some ' '
  | '"' => some '"'
  | '/' => some '/'
  | '\\' => some '\\'
  | 'N' => some (Char.ofNat 0x85)
  | '_' => some (Char.ofNat 0xA0)
  | 'L' => some (Char.ofNat 0x2028)
  | 'P' => some (Char.ofNat 0x2029)
  | _ => none

/-- The number of hexadecimal digits behind an escape letter. -/
def escapeLength? : Char → Option Nat
  | 'x' => some 2
  | 'u' => some 4
  | 'U' => some 8
  | _ => none

/-- Reads an escape sequence at its backslash. Faults stand at the start of the scalar. -/
def readEscape (start : Mark) (c : Cursor) : Except ScanError (Char × Cursor) :=
  match c.rest.drop 1 with
  | [] => fail start .escapeUnknown
  | e :: rest =>
    match escape? e with
    | some ch => .ok (ch, c.pass 2)
    | none =>
      match escapeLength? e with
      | none => fail start .escapeUnknown
      | some n =>
        let digits := rest.take n
        match (if digits.length = n then readDigits? 16 0 digits else none) with
        | none => fail start .escapeDigits
        | some code =>
          match charOf? code with
          | some ch => .ok (ch, c.pass (2 + n))
          | none => fail start .escapeCode

/-- Reads content up to a blank, a line break or the closing quote. `acc` holds the text so far,
latest first; the flag tells whether an escaped line break ended the content. Every step reads a
character, so the length of the text is enough fuel. -/
def readContent (single : Bool) (start : Mark) :
    Nat → List Char → Cursor → Except ScanError (List Char × Bool × Cursor)
  | 0, acc, c => .ok (acc, false, c)
  | fuel + 1, acc, c =>
    match c.rest with
    | [] => .ok (acc, false, c)
    | ch :: rest =>
      if isWhite ch || isBreak ch then .ok (acc, false, c)
      else if single then
        if ch == '\'' then
          match rest with
          | '\'' :: _ => readContent single start fuel ('\'' :: acc) (c.pass 2)
          | _ => .ok (acc, false, c)
        else readContent single start fuel (ch :: acc) (c.pass 1)
      else if ch == '"' then .ok (acc, false, c)
      else if ch == '\\' then
        match rest with
        | b :: _ =>
          if isBreak b then .ok (acc, true, (c.pass 1).passBreak)
          else do
            let (e, c) ← readEscape start c
            readContent single start fuel (e :: acc) c
        | [] => fail start .escapeUnknown
      else readContent single start fuel (ch :: acc) (c.pass 1)

/-- The blanks between two runs of content. -/
structure Gap where
  /-- Blanks of the current line, latest first, while no line break was met. -/
  blanks : List Char
  /-- Whether a line break was met. -/
  broken : Bool
  /-- Whether the first line break stands in the text itself and is not escaped. -/
  leading : Bool
  /-- Number of further line breaks. -/
  breaks : Nat

/-- Reads the blanks and line breaks between two runs of content. -/
def readGap (indent : Int) : Nat → Gap → Cursor → Except ScanError (Gap × Cursor)
  | 0, g, c => .ok (g, c)
  | fuel + 1, g, c =>
    match c.rest with
    | [] => .ok (g, c)
    | ch :: _ =>
      if isWhite ch then
        if g.broken then
          if ch == '\t' && c.column < indent then fail c.mark .quotedTab
          else readGap indent fuel g (c.passBlanks 1)
        else readGap indent fuel { g with blanks := ch :: g.blanks } (c.passBlanks 1)
      else if isBreak ch then
        if g.broken then readGap indent fuel { g with breaks := g.breaks + 1 } c.passBreak
        else readGap indent fuel ⟨[], true, true, g.breaks⟩ c.passBreak
      else .ok (g, c)

/-- The text that a gap stands for, put in front of `acc` (latest first). -/
def foldGap (g : Gap) (acc : List Char) : List Char :=
  if g.broken then
    if g.leading && g.breaks == 0 then ' ' :: acc
    else List.replicate g.breaks '\n' ++ acc
  else g.blanks ++ acc

/-- Whether the cursor is at the closing quote. -/
def atQuote (single : Bool) (c : Cursor) : Bool :=
  c.rest.head? == some (if single then '\'' else '"')

/-- Reads the scalar behind its opening quote, up to its closing quote. -/
def readBody (single : Bool) (indent : Int) (start : Mark) :
    Nat → List Char → Cursor → Except ScanError (List Char × Cursor)
  | 0, _, _ => fail start .quotedUnclosed
  | fuel + 1, acc, c => do
    if c.mark.column == 0 && startsMarker c.rest then
      fail start .quotedMarker
    else if c.rest.isEmpty then
      fail start .quotedUnclosed
    else if c.column < indent then
      fail start .quotedIndentation
    else
      let (acc, escaped, c) ← readContent single start (c.rest.length + 1) acc c
      if atQuote single c then return (acc, c)
      let (g, c) ← readGap indent (c.rest.length + 1) ⟨[], escaped, false, 0⟩ c
      readBody single indent start fuel (foldGap g acc) c

/-- Whether what follows a closing quote and its blanks may follow it. -/
def mayFollow (flow : Bool) (start : Mark) (c : Cursor) : Bool :=
  match c.rest with
  | [] => true
  | ch :: _ =>
    isBreak ch || (flow && (ch == ',' || ch == '\x7d' || ch == ']' || ch == ':')) ||
      (!flow && ch == ':' && start.line == c.mark.line)

/-- Reads a quoted scalar at its opening quote. Blanks and a comment on the closing line belong to
the token. -/
def read (single flow : Bool) (indent : Int) (c : Cursor) : Except ScanError (Token × Cursor) := do
  let start := c.mark
  let (acc, c) ← readBody single indent start (c.rest.length + 1) [] (c.pass 1)
  let skipped ← (c.pass 1).skipToLineEnd true
  let c := skipped.cursor
  if mayFollow flow start c then
    let style := if single then Style.singleQuoted else .doubleQuoted
    return (⟨⟨start, c.mark⟩, .scalar style (String.ofList acc.reverse)⟩, c)
  else fail c.mark .quotedTrailing

end PrimitiveDesk.Yaml.Quoted
