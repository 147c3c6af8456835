import PrimitiveDesk.Layout.Line
import PrimitiveDesk.Text.Lines

/-!
# The place of the cursor in a half-written document

The context of a line is read off the lines around it. Walking away from the cursor, the walk ends
at a document marker and passes over blank and comment lines (`reach`). Going up, every line that
dedents below all lines seen so far opens an enclosing level (`ancestorKeys`); in both directions
the lines with the cursor's own indentation, up to the first dedent, stand beside it
(`siblingKeys`).
-/

namespace PrimitiveDesk.Layout

open Text

/-- A walk away from the cursor line. -/
inductive Direction where
  | backward
  | forward
deriving DecidableEq, Repr

/-- What surrounds the cursor. -/
inductive Context where
  /-- No structure stands around the cursor yet. -/
  | newDocument
  /-- The keys of the enclosing levels, closest first, and the keys beside the cursor. -/
  | nested (ancestors siblings : List String)
deriving DecidableEq, Repr

/-- The lines of a walk that starts next to the cursor line, nearest first. -/
def beside (lines : List (List Char)) (cursor : Nat) : Direction → List (List Char)
  | .backward => (lines.take cursor).reverse
  | .forward => lines.drop (cursor + 1)

/-- The structured lines of a walk before it meets a document marker. -/
def reach (walk : List (List Char)) : List (List Char) :=
  (walk.takeWhile fun l => !isBoundary l).filter isRelevant

/-- The numbered structured lines met from line `start` on, that line included. -/
def traverse (lines : List (List Char)) (start : Nat) (d : Direction) :
    List (Nat × List Char) :=
  let numbered := lines.zipIdx.map fun (l, i) => (i, l)
  let walk := match d with
    | .backward => if start < lines.length then (numbered.take (start + 1)).reverse else []
    | .forward => numbered.drop start
  (walk.takeWhile fun p => !isBoundary p.2).filter fun p => isRelevant p.2

/-- The first keys of the lines that dedent below `level` and below every line met before. -/
def ancestorKeys : Nat → List (List Char) → List String
  | _, [] => []
  | level, l :: ls =>
    if indentCount l < level then (firstKey? l).toList ++ ancestorKeys (indentCount l) ls
    else ancestorKeys level ls

/-- The first keys of the lines indented by exactly `level`, up to the first line indented less.
Going up, such a line may open a sequence entry with a key of its own, which then stands at the
level too. -/
def siblingKeys (d : Direction) (level : Nat) : List (List Char) → List String
  | [] => []
  | l :: ls =>
    if indentCount l = level then (firstKey? l).toList ++ siblingKeys d level ls
    else if indentCount l < level then
      match d, structuralKeys l with
      | .backward, [_, key] => [key]
      | _, _ => []
    else siblingKeys d level ls

/-- The keys of the levels that enclose line `cursor`, measured against its own indentation. -/
def parentsOf (lines : List (List Char)) (cursor : Nat) (d : Direction) : List String :=
  match lines[cursor]? with
  | none => []
  | some l => ancestorKeys (indentCount l) (reach (beside lines cursor d))

/-- The keys that stand beside line `cursor` in one direction. -/
def peersOf (lines : List (List Char)) (cursor : Nat) (d : Direction) : List String :=
  match lines[cursor]? with
  | none => []
  | some l => siblingKeys d (indentCount l) (reach (beside lines cursor d))

/-- The token that starts the nearest line which starts with one of `tokens`. -/
def firstToken (lines : List (List Char)) (cursor : Nat) (d : Direction) (tokens : List String) :
    Option String :=
  (beside lines cursor d).findSome? fun l => startsWithAny l tokens

/-- Whether the nearest marker above the cursor opens a document. -/
def isOpened (lines : List (List Char)) (cursor : Nat) : Bool :=
  firstToken lines cursor .backward [documentStart, documentEnd] == some documentStart

/-- Whether the nearest marker below the cursor closes a document. -/
def isClosed (lines : List (List Char)) (cursor : Nat) : Bool :=
  firstToken lines cursor .forward [documentStart, documentEnd] == some documentEnd

/-- The key that the line itself completes. -/
def ownKey (line : List Char) : List String :=
  if hasFinishedKey line then (structuralKeys line).getLast?.toList else []

/-- The enclosing keys and the keys beside a line, given the walks away from it. On a line that
opens a sequence entry the cursor stands in the entry's mapping, whose keys start behind the
dash. -/
def surroundings (line : List Char) (above below : List (List Char)) :
    List String × List String :=
  match entryColumn? line with
  | some column =>
    (itemsKey :: ancestorKeys (indentCount line) above,
      ownKey line ++ siblingKeys .forward column below)
  | none =>
    (ancestorKeys (indentCount line) above,
      siblingKeys .backward (indentCount line) above ++ ownKey line ++
        siblingKeys .forward (indentCount line) below)

/-- The context of a line of a text cut into lines; none if there is no such line. -/
def resolveLines (lines : List (List Char)) (cursor : Nat) : Option Context :=
  match lines[cursor]? with
  | none => none
  | some line =>
    if isBoundary line then some .newDocument
    else
      match surroundings line (reach (beside lines cursor .backward))
          (reach (beside lines cursor .forward)) with
      | ([], []) => some .newDocument
      | (ancestors, siblings) => some (.nested ancestors siblings)

/-- The context of line `cursor` of a text; none if the text has no such line. -/
def resolve (text : String) (cursor : Nat) : Option Context :=
  resolveLines (lines text.toList) cursor

end PrimitiveDesk.Layout
