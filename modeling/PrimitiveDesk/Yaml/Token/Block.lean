import PrimitiveDesk.Yaml.Token
import PrimitiveDesk.Yaml.Token.Cursor

/-!
# Block scalars

Literal (`|`) and folded (`>`) scalars. The header may tell the indentation of the content and what
becomes of the line breaks behind it; without the first, the content is indented as far as its first
line or any blank line before it.
-/

namespace PrimitiveDesk.Yaml.Block

open Text Cursor

/-- What becomes of the line breaks behind the content. -/
inductive Chomping where
  /-- All are removed. -/
  | strip
  /-- One is kept. -/
  | clip
  /-- All are kept. -/
  | keep
deriving DecidableEq, Repr

/-- The header of a block scalar. -/
structure Header where
  chomping : Chomping
  /-- The indentation relative to the enclosing block; zero if the content decides. -/
  increment : Nat

/-- Reads an optional chomping indicator. -/
def readChomping (c : Cursor) : Option Chomping × Cursor :=
  match c.rest with
  | '+' :: _ => (some .keep, c.pass 1)
  | '-' :: _ => (some .strip, c.pass 1)
  | _ => (none, c)

/-- Reads an optional indentation indicator, which must not be zero. -/
def readIncrement (start : Mark) (c : Cursor) : Except ScanError (Nat × Cursor) :=
  match c.rest with
  | ch :: _ =>
    if isAsciiDigit ch then
      if ch == '0' then fail start .blockIndentZero else .ok (ch.toNat - 48, c.pass 1)
    else .ok (0, c)
  | [] => .ok (0, c)

/-- Reads the header behind its indicator, in either order. -/
def readHeader (start : Mark) (c : Cursor) : Except ScanError (Header × Cursor) :=
  match readChomping c with
  | (some chomping, c) => do
    let (n, c) ← readIncrement start c
    return (⟨chomping, n⟩, c)
  | (none, _) => do
    let (n, c) ← readIncrement start c
    if n == 0 then return (⟨.clip, 0⟩, c)
    let (chomping, c) := readChomping c
    return (⟨chomping.getD .clip, n⟩, c)

/-- Passes over blank lines and over at most `indent` spaces of the next one; counts the lines. -/
def skipIndent (indent : Nat) : Nat → Nat → Cursor → Nat × Cursor
  | 0, breaks, c => (breaks, c)
  | fuel + 1, breaks, c =>
    let spaces := (c.rest.takeWhile (· == ' ')).length
    let c := c.passBlanks (min spaces (indent - c.mark.column))
    match c.rest with
    | ch :: _ => if isBreak ch then skipIndent indent fuel (breaks + 1) c.passBreak else (breaks, c)
    | [] => (breaks, c)

/-- Passes over blank lines and the spaces of the next one; counts the lines and gives the widest
indentation met. -/
def skipFirstIndent : Nat → Nat → Nat → Cursor → Nat × Nat × Cursor
  | 0, widest, breaks, c => (widest, breaks, c)
  | fuel + 1, widest, breaks, c =>
    let c := c.passWhile (· == ' ')
    let widest := max widest c.mark.column
    match c.rest with
    | ch :: _ =>
      if isBreak ch then skipFirstIndent fuel widest (breaks + 1) c.passBreak
      else (widest, breaks, c)
    | [] => (widest, breaks, c)

/-- Passes over the blank lines in front of the content: gives the indentation of the content and
the number of these lines. -/
def skipToContent (header : Header) (parent : Int) (c : Cursor) : Nat × Nat × Cursor :=
  if header.increment == 0 then
    let (widest, breaks, c) := skipFirstIndent (c.rest.length + 1) 0 0 c
    let indent := max widest (parent + 1).toNat
    (if 0 < parent then max indent 1 else indent, breaks, c)
  else
    let indent := if 0 ≤ parent then (parent + header.increment).toNat else header.increment
    let (breaks, c) := skipIndent indent (c.rest.length + 1) 0 c
    (indent, breaks, c)

/-- What was read of the content. -/
structure Reading where
  cursor : Cursor
  /-- The text, latest first. -/
  text : List Char
  /-- Whether a line break followed the last line. -/
  broken : Bool
  /-- Number of blank lines behind it. -/
  breaks : Nat
  /-- Whether the last line started with a blank. -/
  blankStart : Bool

/-- The text in front of the next line: a folded scalar joins two lines that both start with
content. -/
def joined (literal : Bool) (r : Reading) (blankStart : Bool) : List Char :=
  if !literal && r.broken && !r.blankStart && !blankStart then
    if r.breaks == 0 then ' ' :: r.text else List.replicate r.breaks '\n' ++ r.text
  else
    List.replicate (r.breaks + if r.broken then 1 else 0) '\n' ++ r.text

/-- Reads the lines that are indented by `indent`. -/
def readLines (literal : Bool) (indent : Nat) : Nat → Reading → Reading
  | 0, r => r
  | fuel + 1, r =>
    let c := r.cursor
    if c.mark.column != indent || c.rest.isEmpty || (indent == 0 && endsDocument c.rest) then r
    else
      let blankStart := match c.rest with
        | ch :: _ => isWhite ch
        | [] => false
      let line := c.rest.takeWhile fun ch => !isBreak ch
      let text := line.reverse ++ joined literal r blankStart
      let c := c.passBlanks line.length
      if c.rest.isEmpty then ⟨c, text, false, 0, blankStart⟩
      else
        let (breaks, c) := skipIndent indent (c.rest.length + 1) 0 c.passBreak
        readLines literal indent fuel ⟨c, text, true, breaks, blankStart⟩

/-- The text with its tail chomped. -/
def chomped (chomping : Chomping) (indent : Nat) (r : Reading) : List Char :=
  let text :=
    if chomping == .strip then r.text
    else
      let text := if r.broken then '\n' :: r.text else r.text
      if r.cursor.rest.isEmpty && max indent 1 ≤ r.cursor.mark.column then '\n' :: text else text
  if chomping == .keep then List.replicate r.breaks '\n' ++ text else text

/-- The text of a scalar whose stream ends before any content. -/
def emptyText (chomping : Chomping) (sameLine : Bool) (broken : Bool) (breaks : Nat) : List Char :=
  let first := if broken then ['\n'] else []
  match chomping with
  | .strip => []
  | .clip => if sameLine then [] else first
  | .keep => if sameLine then [] else if breaks == 0 then first else List.replicate breaks '\n'

/-- Reads a block scalar at its indicator, inside a block indented by `parent`. -/
def read (literal : Bool) (parent : Int) (c : Cursor) : Except ScanError (Token × Cursor) := do
  let start := c.mark
  let style := if literal then Style.literal else .folded
  let (header, c) ← readHeader start (c.pass 1)
  let skipped ← c.skipToLineEnd true
  let c := skipped.cursor
  if !endsLine c.rest then fail start .blockHeader
  else
    let broken := !c.rest.isEmpty
    let c := c.passBreak
    if c.rest.head? == some '\t' then fail start .blockTab
    else
      let (indent, breaks, c) := skipToContent header parent c
      if c.rest.isEmpty then
        let text := emptyText header.chomping (c.mark.line == start.line) broken breaks
        return (⟨⟨start, c.mark⟩, .scalar style (String.ofList text)⟩, c)
      else if c.mark.column < indent && parent < c.column then fail c.mark .blockIndentation
      else
        let first := c.mark
        let r := readLines literal indent (c.rest.length + 1) ⟨c, [], false, breaks, false⟩
        let text := (chomped header.chomping indent r).reverse
        return (⟨⟨first, r.cursor.mark⟩, .scalar style (String.ofList text)⟩, r.cursor)

end PrimitiveDesk.Yaml.Block
