import PrimitiveDesk.Yaml.Token
import PrimitiveDesk.Yaml.Token.Cursor

/-!
# Plain scalars

A plain scalar ends before a comment, a colon that a blank follows, a document marker, in flow
collections also before their indicators, and in blocks where a line is not indented enough. Line
breaks inside it fold as in quoted scalars.
-/

namespace PrimitiveDesk.Yaml.Plain

open Cursor

/-- Whether the next character can belong to a plain scalar. -/
def canContinue (flow : Bool) : List Char → Bool
  | [] => false
  | ':' :: rest => !(endsWord rest || (flow && startsFlow rest))
  | c :: _ => !isWhite c && !isBreak c && !(flow && isFlow c)

/-- What was read of a scalar. -/
structure Reading where
  cursor : Cursor
  /-- The text, latest first. -/
  text : List Char
  /-- Blanks since the last content on the line, latest first. -/
  blanks : List Char
  /-- Whether a line break followed the last content. -/
  broken : Bool
  /-- Number of further line breaks. -/
  breaks : Nat
  /-- The mark behind the last content. -/
  stop : Mark

/-- The text with what lies between it and the next content folded in. -/
def Reading.folded (r : Reading) : List Char :=
  if r.cursor.fresh then
    if r.broken && r.breaks == 0 then ' ' :: r.text
    else List.replicate r.breaks '\n' ++ r.text
  else r.blanks ++ r.text

/-- Reads characters as long as they belong to the scalar. -/
def readRun (flow : Bool) : Nat → List Char → Cursor → List Char × Cursor
  | 0, acc, c => (acc, c)
  | fuel + 1, acc, c =>
    match c.rest with
    | [] => (acc, c)
    | ch :: _ =>
      if canContinue flow c.rest then readRun flow fuel (ch :: acc) (c.pass 1) else (acc, c)

/-- Reads the blanks and line breaks behind a run of content. -/
def readGap (indent : Int) (start : Mark) : Nat → Reading → Except ScanError Reading
  | 0, r => .ok r
  | fuel + 1, r =>
    let c := r.cursor
    match c.rest with
    | [] => .ok r
    | ch :: _ =>
      if isWhite ch then
        if !c.fresh then
          readGap indent start fuel { r with blanks := ch :: r.blanks, cursor := c.passBlanks 1 }
        else if c.column < indent && ch == '\t' then do
          let skipped ← c.skipToLineEnd true
          if endsLine skipped.cursor.rest then
            readGap indent start fuel { r with cursor := skipped.cursor }
          else fail start .plainTab
        else readGap indent start fuel { r with cursor := c.passBlanks 1 }
      else if isBreak ch then
        if c.fresh then
          readGap indent start fuel { r with breaks := r.breaks + 1, cursor := c.passBreak }
        else
          readGap indent start fuel { r with blanks := [], broken := true, cursor := c.passBreak }
      else .ok r

/-- Reads runs of content and the gaps between them. -/
def readRuns (flow : Bool) (indent : Int) (start : Mark) : Nat → Reading → Except ScanError Reading
  | 0, r => .ok r
  | fuel + 1, r => do
    let c := r.cursor
    if (c.fresh && startsMarker c.rest) || c.rest.head? == some '#' then return r
    if flow && c.rest.head? == some '-' && startsFlow (c.rest.drop 1) then
      fail c.mark .plainDash
    else
      let r :=
        if canContinue flow c.rest then
          let (text, c) := readRun flow (c.rest.length + 1) r.folded { c with fresh := false }
          ⟨c, text, [], false, 0, c.mark⟩
        else r
      if !endsWord r.cursor.rest || r.cursor.rest.isEmpty then return r
      let r ← readGap indent start (r.cursor.rest.length + 1) r
      if !flow && r.cursor.column < indent then return r
      readRuns flow indent start fuel r

/-- Reads a plain scalar. In a block its lines must be indented by at least `indent`. -/
def read (flow : Bool) (indent : Int) (c : Cursor) : Except ScanError (Token × Cursor) := do
  let start := c.mark
  if flow && c.column < indent then
    fail start .flowIndentation
  else
    let r ← readRuns flow indent start (c.rest.length + 1) ⟨c, [], [], false, 0, start⟩
    if r.text.isEmpty then fail start .plainEmpty
    else return (⟨⟨start, r.stop⟩, .scalar .plain (String.ofList r.text.reverse)⟩, r.cursor)

end PrimitiveDesk.Yaml.Plain
