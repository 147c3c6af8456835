import PrimitiveDesk.Text.Blank

/-!
# The shape of a single line

While a document is being typed it cannot be parsed, but each line still shows its indentation,
whether it opens a sequence entry, and the text before its first colon. `LineShape.of` cuts a line
into these parts, which join to the line again (`LineShape.of_text`); every question about a line is
answered from that one cut.
-/

namespace PrimitiveDesk.Layout

open Text

/-- The structural key that stands for "this line opens a sequence entry". -/
def itemsKey : String := "items"

/-- The marker line that opens a document. -/
def documentStart : String := "---"

/-- The marker line that closes a document. -/
def documentEnd : String := "..."

/-- A line cut into its structural parts. -/
structure LineShape where
  /-- Leading blanks. -/
  lead : List Char
  /-- The blanks behind a sequence dash, if there is a dash. -/
  dash? : Option (List Char)
  /-- The text up to the first colon. -/
  key : List Char
  /-- Empty, or what follows from the first colon on. -/
  rest : List Char
deriving DecidableEq, Repr

namespace LineShape

/-- Cuts the part behind the indentation and dash at its first colon. -/
def ofBody (lead : List Char) (dash? : Option (List Char)) (body : List Char) : LineShape :=
  ⟨lead, dash?, body.takeWhile (· != ':'), body.dropWhile (· != ':')⟩

/-- The shape of a line. -/
def of (line : List Char) : LineShape :=
  let lead := line.takeWhile isBlank
  match line.dropWhile isBlank with
  | '-' :: body => ofBody lead (some (body.takeWhile isBlank)) (body.dropWhile isBlank)
  | body => ofBody lead none body

/-- The line with this shape. -/
def text (s : LineShape) : List Char :=
  s.lead ++ (match s.dash? with | none => [] | some gap => '-' :: gap) ++ s.key ++ s.rest

theorem of_text (line : List Char) : (of line).text = line := by
  unfold of
  split
  · next body h =>
    simp only [text, ofBody, List.append_assoc, List.cons_append, List.takeWhile_append_dropWhile]
    rw [← h, List.takeWhile_append_dropWhile]
  · simp only [text, ofBody, List.append_assoc, List.nil_append, List.takeWhile_append_dropWhile]

end LineShape

/-- Number of leading blanks of a line. -/
def indentCount (line : List Char) : Nat :=
  (LineShape.of line).lead.length

/-- The leading blanks of a line. -/
def indentation (line : List Char) : List Char :=
  (LineShape.of line).lead

/-- Blank lines and comment lines carry no structure. -/
def isRelevant (line : List Char) : Bool :=
  match trimStart line with
  | [] => false
  | c :: _ => c != '#'

/-- The first of `tokens` that the trimmed line starts with. -/
def startsWithAny (line : List Char) (tokens : List String) : Option String :=
  tokens.find? fun t => t.toList.isPrefixOf (trim line)

/-- Whether the line starts with a document marker. -/
def isBoundary (line : List Char) : Bool :=
  (startsWithAny line [documentStart, documentEnd]).isSome

/-- The structural keys of a line: `items` if it opens a sequence entry, then the text before its
first colon if there is any. -/
def structuralKeys (line : List Char) : List String :=
  let s := LineShape.of line
  let entry := if s.dash?.isSome then [itemsKey] else []
  if s.key.isEmpty then entry else entry ++ [String.ofList (trimEnd s.key)]

/-- The first structural key of a line. -/
def firstKey? (line : List Char) : Option String :=
  (structuralKeys line).head?

/-- Whether the key of the line is completed by a colon. -/
def hasFinishedKey (line : List Char) : Bool :=
  let s := LineShape.of line
  !s.key.isEmpty && !s.rest.isEmpty

/-- The column at which the mapping of a sequence entry starts, if the line opens one. -/
def entryColumn? (line : List Char) : Option Nat :=
  let s := LineShape.of line
  s.dash?.map fun gap => s.lead.length + 1 + gap.length

end PrimitiveDesk.Layout
