import PrimitiveDesk.Text.Span

/-!
# Lines of a text

A text is cut at line feeds, and a final line feed opens one more, empty line. `rawLines` keeps
carriage returns; `lines` drops the one that belongs to a line ending. The measures of a text are
its length in bytes of UTF-8 (`byteLength`) and in units of UTF-16 (`units`).
-/

namespace PrimitiveDesk.Text

/-- The text cut at its line feeds. -/
def rawLines : List Char → List (List Char)
  | [] => [[]]
  | c :: cs =>
    if c = '\n' then [] :: rawLines cs
    else
      match rawLines cs with
      | [] => [[c]]
      | l :: ls => (c :: l) :: ls

/-- A line without one carriage return at its end. -/
def dropReturn (line : List Char) : List Char :=
  match line.reverse with
  | '\r' :: rest => rest.reverse
  | _ => line

/-- A line without any carriage returns at its end. -/
def dropReturns (line : List Char) : List Char :=
  (line.reverse.dropWhile (· == '\r')).reverse

/-- The lines of a text, each without its line ending. -/
def lines (text : List Char) : List (List Char) :=
  (rawLines text).map dropReturn

/-- Number of bytes of the text in UTF-8. -/
def byteLength : List Char → Nat
  | [] => 0
  | c :: cs => c.utf8Size + byteLength cs

/-- Number of UTF-16 units of a character. -/
def unitsOf (c : Char) : Nat :=
  if c.toNat < 0x10000 then 1 else 2

/-- Number of UTF-16 units of a text. -/
def units : List Char → Nat
  | [] => 0
  | c :: cs => unitsOf c + units cs

/-- The first `n` bytes of a text, if they end at a character boundary. -/
def takeBytes? : List Char → Nat → Option (List Char)
  | _, 0 => some []
  | [], _ + 1 => none
  | c :: cs, n + 1 =>
    if c.utf8Size ≤ n + 1 then (takeBytes? cs (n + 1 - c.utf8Size)).map (c :: ·) else none

/-- The text behind its first `n` bytes, if they end at a character boundary. -/
def dropBytes? : List Char → Nat → Option (List Char)
  | cs, 0 => some cs
  | [], _ + 1 => none
  | c :: cs, n + 1 => if c.utf8Size ≤ n + 1 then dropBytes? cs (n + 1 - c.utf8Size) else none

/-- The part of a text inside a span, if both ends are character boundaries in order. -/
def slice? (text : List Char) (span : Span) : Option (List Char) :=
  if span.start ≤ span.stop then
    (dropBytes? text span.start).bind (takeBytes? · (span.stop - span.start))
  else none

/-- The byte offset of the `n`-th character; past the end, the length of the text. -/
def byteOffset : List Char → Nat → Nat
  | _, 0 => 0
  | [], _ + 1 => 0
  | c :: cs, n + 1 => c.utf8Size + byteOffset cs n

/-- The byte offset behind the character that starts at byte `at_`; `at_` itself where no character
starts. -/
def nextBoundary (text : List Char) (at_ : Nat) : Nat :=
  match dropBytes? text at_ with
  | some (c :: _) => at_ + c.utf8Size
  | _ => at_

end PrimitiveDesk.Text
