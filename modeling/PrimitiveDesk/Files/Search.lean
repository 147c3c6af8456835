import PrimitiveDesk.Files.Tree

/-!
# Searches for files

A search goes down from the root of a tree by steps, each of which is a pattern for a name: `?`
stands for any character, `*` for any characters, and `[a-z]` for a character of a range, or of none
if an exclamation mark is in front. The step `**` goes down any number of folders. What is found
comes in order of the names of each folder.
-/

namespace PrimitiveDesk

/-- A part of a pattern for a name. -/
inductive NamePart where
  | char (c : Char)
  /-- Any character. -/
  | anyChar
  /-- Any number of characters. -/
  | anyText
  /-- A character that is in some of the ranges, or one that is in none. -/
  | ranges (rs : List (Char × Char)) (inside : Bool)
deriving DecidableEq, Repr, Inhabited

namespace NamePart

/-- The ranges that stand between brackets. -/
def readRanges : List Char → List (Char × Char)
  | a :: '-' :: b :: rest => (a, b) :: readRanges rest
  | a :: rest => (a, a) :: readRanges rest
  | [] => []

/-- What stands between brackets, and what follows. A closing bracket in the first place counts as a
character. -/
def splitBrackets? : List Char → Option (List Char × List Char)
  | [] => none
  | c :: cs =>
    match cs.span (· != ']') with
    | (inner, ']' :: rest) => some (c :: inner, rest)
    | _ => none

/-- The parts of a pattern. Two stars behind each other and brackets without an end are wrong. Each
step reads a character. -/
def readParts? : Nat → List Char → Option (List NamePart)
  | _, [] => some []
  | 0, _ => none
  | _ + 1, '*' :: '*' :: _ => none
  | fuel + 1, '*' :: cs => (readParts? fuel cs).map (anyText :: ·)
  | fuel + 1, '?' :: cs => (readParts? fuel cs).map (anyChar :: ·)
  | fuel + 1, '[' :: cs =>
    let (inside, cs) := match cs with
      | '!' :: cs => (false, cs)
      | cs => (true, cs)
    match splitBrackets? cs with
    | some (inner, rest) => (readParts? fuel rest).map (ranges (readRanges inner) inside :: ·)
    | none => none
  | fuel + 1, c :: cs => (readParts? fuel cs).map (char c :: ·)

/-- Whether a name fits a pattern. -/
def fits : List NamePart → List Char → Bool
  | [], cs => cs.isEmpty
  | char p :: ps, c :: cs => p == c && fits ps cs
  | anyChar :: ps, _ :: cs => fits ps cs
  | ranges rs inside :: ps, c :: cs =>
    (rs.any fun (a, b) => a ≤ c && c ≤ b) == inside && fits ps cs
  | anyText :: ps, cs => fitsBehind ps cs
  | _ :: _, [] => false
where
  /-- Whether some end of a name fits. -/
  fitsBehind (ps : List NamePart) : List Char → Bool
    | [] => fits ps []
    | c :: cs => fits ps (c :: cs) || fitsBehind ps cs

end NamePart

/-- A step of a search. -/
inductive SearchStep where
  | named (pattern : List NamePart)
  /-- Down any number of folders. -/
  | deep
deriving DecidableEq, Repr, Inhabited

/-- The step that a text writes. -/
def SearchStep.ofText? (s : String) : Option SearchStep :=
  if s == "**" then some .deep else (NamePart.readParts? (s.length + 1) s.toList).map .named

namespace FileTree

/-- A file or folder with the names that lead to it. -/
abbrev Located := List String × FileTree

/-- Whether the name of a file or folder fits a pattern. -/
def Located.fits (pattern : List NamePart) (l : Located) : Bool :=
  l.1.getLast?.any fun name => NamePart.fits pattern name.toList

/-- The files and folders in a folder, in order. -/
def Located.children : Located → List Located
  | (_, file _ _) => []
  | (names, folder entries) =>
    (entries.map fun (name, t) => (names ++ [name], t)).mergeSort fun a b => !List.lex b.1 a.1

/-- The files and folders below a folder, in order. -/
def Located.contents (l : Located) : List Located :=
  (walk l.1 l.2).drop 1

/-- What steps lead to from a place. -/
def Located.search : List SearchStep → Located → List Located
  | [], l => [l]
  | .named pattern :: rest, l =>
    (l.children.filter (Located.fits pattern)).flatMap (Located.search rest)
  | .deep :: .named pattern :: rest, l =>
    (l.contents.filter (Located.fits pattern)).flatMap (Located.search rest)
  | .deep :: .deep :: rest, l => Located.search (.deep :: rest) l
  | [.deep], l => l :: l.contents

/-- What steps lead to from the root of a tree. -/
def search (tree : FileTree) (steps : List SearchStep) : List Located :=
  Located.search steps ([], tree)

end FileTree

end PrimitiveDesk
