/-!
# Paths

A path is kept as it is written: cut at its slashes, with empty and `.` segments in place. They do
not count as steps, so that two paths with the same steps lead to the same place (`Path.steps`)
while each prints as it was given (`Path.text`).
-/

namespace PrimitiveDesk

/-- A path, cut at its slashes. -/
structure Path where
  /-- Whether the path starts with a slash. -/
  rooted : Bool
  /-- What stands between the slashes, behind the first one of a rooted path. -/
  segments : List String
deriving DecidableEq, Repr, Inhabited

namespace Path

/-- The path that a text writes. -/
def ofText (text : String) : Path :=
  match text.toList with
  | '/' :: rest => ⟨true, (rest.splitOn '/').map String.ofList⟩
  | cs => ⟨false, (cs.splitOn '/').map String.ofList⟩

/-- The text of a path. -/
def text (p : Path) : String :=
  (if p.rooted then "/" else "") ++ String.intercalate "/" p.segments

/-- Whether a segment inside a path is a step. -/
def isStep (segment : String) : Bool :=
  segment != "" && segment != "."

/-- The segments that are steps. A path that starts at `.` keeps that as a step. -/
def steps (p : Path) : List String :=
  match p.rooted, p.segments with
  | false, "." :: rest => "." :: rest.filter isStep
  | _, segments => segments.filter isStep

/-- Whether two paths have the same steps. -/
def same (p q : Path) : Bool :=
  p.rooted == q.rooted && p.steps == q.steps

/-- The name of the last step; going up or staying is no name. -/
def name? (p : Path) : Option String :=
  match p.steps.getLast? with
  | some s => if s == ".." || s == "." then none else some s
  | none => none

/-- Segments, latest first, without those at the end that are no steps. -/
def trimmed (reversed : List String) : List String :=
  reversed.dropWhile fun s => !isStep s

/-- The path without its last step; none if it has no step. -/
def parent? (p : Path) : Option Path :=
  if p.steps.isEmpty then none
  else
    match trimmed p.segments.reverse with
    | _ :: rest =>
      match trimmed rest with
      -- only a path that starts at `.` still has a step here
      | [] => some ⟨p.rooted, if !p.rooted && p.steps.head? == some "." then ["."] else [""]⟩
      | rest => some ⟨p.rooted, rest.reverse⟩
    | [] => some ⟨p.rooted, [""]⟩

/-- The folders above a path, nearest first. -/
def above : Nat → Path → List Path
  | 0, _ => []
  | fuel + 1, p =>
    match p.parent? with
    | some q => q :: above fuel q
    | none => []

/-- The folders above a path, nearest first. Each has fewer steps than the one before. -/
def folders (p : Path) : List Path :=
  above (p.segments.length + 1) p

/-- Goes on from a path by another one; a rooted one starts anew. -/
def join (p q : Path) : Path :=
  if q.rooted then q
  else if !p.rooted && (p.segments == [""] || p.segments.isEmpty) then q
  else if p.segments.getLast? == some "" then ⟨p.rooted, p.segments.dropLast ++ q.segments⟩
  else ⟨p.rooted, p.segments ++ q.segments⟩

/-- Goes on from a path by the text of another one. -/
def joinText (p : Path) (t : String) : Path :=
  p.join (ofText t)

end Path

end PrimitiveDesk
