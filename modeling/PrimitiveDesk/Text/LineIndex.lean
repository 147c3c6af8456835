import PrimitiveDesk.Text.Lines

/-!
# Line positions

Editors address a text by line and character, where characters count UTF-16 units; everything else
in this library counts bytes. `LineIndex` converts between the two.

* `LineIndex.position` clamps offsets past the end to the end of the text. Inside a character, where
  no prefix of the line ends, the character is the number of bytes since the line start.
* `LineIndex.offset` clamps characters past the end of a line to the end of the line, and lines past
  the end to the end of the text.
* `LineIndex.lineSpan` is a line without its line ending.
-/

namespace PrimitiveDesk

/-- A place in a text: zero-based line, and UTF-16 units since the start of the line. -/
structure Position where
  line : Nat
  character : Nat
deriving DecidableEq, Repr, Inhabited

/-- A text prepared for conversion between byte offsets and positions. -/
structure LineIndex where
  /-- The lines of the text, with their carriage returns and without their line feeds. -/
  lines : List (List Char)

namespace LineIndex

open Text

/-- The index of a text. -/
def ofText (text : String) : LineIndex :=
  ⟨rawLines text.toList⟩

/-- Number of lines, a final empty one included. -/
def lineCount (ix : LineIndex) : Nat :=
  ix.lines.length

/-- Byte offset at which a line starts. -/
def lineStart (ix : LineIndex) (line : Nat) : Nat :=
  (ix.lines.take line).foldr (fun l n => byteLength l + 1 + n) 0

/-- Number of bytes of the whole text. -/
def byteSize (ix : LineIndex) : Nat :=
  ix.lineStart ix.lineCount - 1

/-- Splits an offset into the line it is on and the bytes since that line's start. -/
def locate : List (List Char) → Nat → Nat × List Char × Nat
  | [], offset => (0, [], offset)
  | [l], offset => (0, l, offset)
  | l :: m :: ls, offset =>
    if offset ≤ byteLength l then (0, l, offset)
    else
      let (line, text, rest) := locate (m :: ls) (offset - (byteLength l + 1))
      (line + 1, text, rest)

/-- The position of a byte offset. -/
def position (ix : LineIndex) (offset : Nat) : Position :=
  let (line, text, bytes) := locate ix.lines (min offset ix.byteSize)
  ⟨line, ((takeBytes? text bytes).map units).getD bytes⟩

/-- Number of bytes of the shortest prefix with at least `n` UTF-16 units, or of the whole text. -/
def bytesOfUnits : List Char → Nat → Nat
  | [], _ => 0
  | c :: cs, n => if n = 0 then 0 else c.utf8Size + bytesOfUnits cs (n - unitsOf c)

/-- The byte offset of a position. -/
def offset (ix : LineIndex) (p : Position) : Nat :=
  match ix.lines[p.line]? with
  | none => ix.byteSize
  | some l => ix.lineStart p.line + bytesOfUnits (dropReturns l) p.character

/-- The span of a line, without its line ending. -/
def lineSpan? (ix : LineIndex) (line : Nat) : Option Span :=
  ix.lines[line]?.map fun l =>
    let start := ix.lineStart line
    ⟨start, start + byteLength (dropReturns l)⟩

/-- The positions of both ends of a span. -/
def range (ix : LineIndex) (s : Span) : Position × Position :=
  (ix.position s.start, ix.position s.stop)

end LineIndex

end PrimitiveDesk
