import PrimitiveDesk.Proofs.Layout.ContextScope
import PrimitiveDesk.Proofs.Layout.KeyInsertion
import PrimitiveDesk.Proofs.Text.LineEdit

/-!
# The cursor on a comment

Comment lines carry no structure, so every walk passes over them. The line of the cursor is part of
no walk, and it is asked for its own key without a look at whether it is a comment
(`ownKey_of_isComment`). So on a comment line the context is that of the blank line in its place,
except that a comment with a colon puts a key among the siblings: the text of the comment up to
there (`resolve_on_comment`).

`resolveLines` of a line that is no marker depends on what surrounds the line only
(`resolveLines_eq`), and so the two contexts are compared.
-/

namespace PrimitiveDesk.Layout

open Text

/-- Whether a comment stands behind the leading blanks of a line. -/
def isComment (line : List Char) : Bool :=
  (trimStart line).head? == some '#'

/-- What a comment is taken to complete as a key: its text up to its first colon, if it has one. -/
def commentKey (line : List Char) : List String :=
  if ':' ∈ line then [String.ofList (trimEnd ((trimStart line).takeWhile (· != ':')))] else []

/-- The context with given keys around the cursor. -/
def Context.of : List String → List String → Context
  | [], [] => newDocument
  | ancestors, siblings => nested ancestors siblings

/-- Contexts with the same enclosing keys are told apart by the keys beside the cursor. -/
private theorem Context.of_inj {ancestors siblings siblings' : List String} :
    of ancestors siblings = of ancestors siblings' ↔ siblings = siblings' := by
  refine ⟨fun h => ?_, fun h => h ▸ rfl⟩
  unfold of at h
  split at h <;> split at h <;> simp_all

/-! ## The line -/

/-- A comment is a hash behind blanks. -/
private theorem exists_of_isComment {line : List Char} (h : isComment line = true) :
    ∃ lead body, line = lead ++ '#' :: body ∧ ∀ c ∈ lead, isBlank c := by
  obtain ⟨lead, body, rfl, hlead, hbody⟩ := exists_lead line
  cases body with
  | nil => simp [isComment, trimStart_of_blank hlead] at h
  | cons c body =>
    rw [isComment, trimStart_append_cons hlead (hbody c rfl)] at h
    obtain rfl : c = '#' := by simpa using h
    exact ⟨lead, body, rfl, hlead⟩

section Comment

variable {lead body : List Char} (hlead : ∀ c ∈ lead, isBlank c)

include hlead

private theorem LineShape.of_comment :
    of (lead ++ '#' :: body) = ofBody lead none ('#' :: body) :=
  of_lead_append hlead (by decide) (by decide) body

/-- A comment is no marker. -/
private theorem isBoundary_of_comment : isBoundary (lead ++ '#' :: body) = false := by
  have hstart : ¬ documentStart.toList <+: '#' :: body := by
    simp [documentStart, List.cons_prefix_cons]
  have hend : ¬ documentEnd.toList <+: '#' :: body := by
    simp [documentEnd, List.cons_prefix_cons]
  rw [← Bool.not_eq_true, isBoundary_iff_of_lead_append hlead (by decide)]
  exact not_or.mpr ⟨hstart, hend⟩

/-- `ownKey` cuts a comment line at a colon like any other. -/
theorem ownKey_of_isComment :
    ownKey (lead ++ '#' :: body) = commentKey (lead ++ '#' :: body) := by
  have hnot : ':' ∉ lead := fun h => absurd (hlead _ h) (by decide)
  rw [ownKey, hasFinishedKey, structuralKeys, commentKey, LineShape.of_comment hlead,
    LineShape.ofBody, trimStart_append_cons hlead (by decide)]
  by_cases h : ':' ∈ body <;> simp [h, hnot]

/-- On a comment line the cursor stands in the column of the comment. -/
private theorem surroundings_of_comment (above below : List (List Char)) :
    surroundings (lead ++ '#' :: body) above below =
      (ancestorKeys lead.length above,
        siblingKeys .backward lead.length above ++ commentKey (lead ++ '#' :: body) ++
          siblingKeys .forward lead.length below) := by
  rw [← ownKey_of_isComment hlead]
  simp [surroundings, entryColumn?, indentCount, LineShape.of_comment hlead, LineShape.ofBody]

private theorem indentation_of_comment : indentation (lead ++ '#' :: body) = lead := by
  rw [indentation, LineShape.of_comment hlead, LineShape.ofBody]

end Comment

/-! ## The lines around it -/

/-- The lines `beside` the cursor do not depend on the line of the cursor. -/
private theorem beside_set (ls : List (List Char)) (cursor : Nat) (line : List Char)
    (d : Direction) :
    beside (ls.set cursor line) cursor d = beside ls cursor d := by
  cases d with
  | backward => simp [beside, List.take_set_of_le]
  | forward => simp [beside, List.drop_set_of_lt]

/-- `resolveLines` of a line that is no marker, by what surrounds it. -/
theorem resolveLines_eq {ls : List (List Char)} {cursor : Nat} {line : List Char}
    (hline : ls[cursor]? = some line) (hboundary : isBoundary line = false) :
    resolveLines ls cursor =
      let around := surroundings line (reach (beside ls cursor .backward))
        (reach (beside ls cursor .forward))
      some (.of around.1 around.2) := by
  rw [resolveLines, hline]
  simp only [hboundary, Bool.false_eq_true, if_false]
  split
  · next h => rw [h]; rfl
  · next h h' => rw [h']; unfold Context.of; split <;> simp_all

/-! ## The context -/

/-- A line can be cut short. It gets a line ending with a carriage return, so that none of its own
is taken for a part of the line ending. -/
private theorem exists_lines_eq_set {text : List Char} {cursor : Nat} {line front : List Char}
    (hline : (lines text)[cursor]? = some line) (hfront : front <+: line) :
    ∃ edited, lines edited = (lines text).set cursor front := by
  have hbreak : '\n' ∉ front ++ ['\r'] := by
    have hmem : '\n' ∉ front := fun h => not_mem_of_getElem?_lines hline (hfront.subset h)
    simp [hmem]
  have hreturn : dropReturn (front ++ ['\r']) = front := by simp [dropReturn]
  obtain ⟨hlt, -⟩ := List.getElem?_eq_some_iff.mp hline
  rw [lines, List.getElem?_map] at hline
  obtain ⟨raw, hraw, -⟩ := Option.map_eq_some_iff.mp hline
  obtain ⟨before, after, -, -, -, hedit⟩ := exists_rawLines_edit hraw
  refine ⟨before ++ (front ++ ['\r']) ++ after, ?_⟩
  rw [List.set_eq_take_append_cons_drop, if_pos hlt, lines, hedit, rawLines_of_not_mem hbreak]
  simp [lines, hreturn, List.map_take, List.map_drop]

/-- On a comment line the context is that of the line without the comment, with the same enclosing
keys and the same keys beside it; but a comment with a colon adds a key of its own between those
above and those below. So the two contexts are the same if and only if the comment has no colon. -/
theorem resolve_on_comment {text : String} {cursor : Nat} {line : List Char}
    (hline : (lines text.toList)[cursor]? = some line) (hcomment : isComment line = true) :
    (∃ blanked : String,
      lines blanked.toList = (lines text.toList).set cursor (indentation line)) ∧
    ∀ blanked : String,
      lines blanked.toList = (lines text.toList).set cursor (indentation line) →
      let ancestors := parentsOf (lines text.toList) cursor .backward
      let above := peersOf (lines text.toList) cursor .backward
      let below := peersOf (lines text.toList) cursor .forward
      resolve blanked cursor = some (.of ancestors (above ++ below)) ∧
      resolve text cursor = some (.of ancestors (above ++ commentKey line ++ below)) ∧
      (resolve text cursor = resolve blanked cursor ↔ ':' ∉ line) := by
  obtain ⟨lead, body, rfl, hlead⟩ := exists_of_isComment hcomment
  obtain ⟨hlt, -⟩ := List.getElem?_eq_some_iff.mp hline
  have hindent : indentCount (lead ++ '#' :: body) = lead.length := by
    rw [indentCount, LineShape.of_comment hlead, LineShape.ofBody]
  rw [indentation_of_comment hlead]
  constructor
  · obtain ⟨edited, hedited⟩ := exists_lines_eq_set hline (List.prefix_append lead ('#' :: body))
    exact ⟨String.ofList edited, by rw [String.toList_ofList, hedited]⟩
  · intro blanked hblanked ancestors above below
    -- on the line itself the comment key comes between those above and below
    have htext : resolve text cursor =
        some (.of ancestors (above ++ commentKey (lead ++ '#' :: body) ++ below)) := by
      rw [resolve, resolveLines_eq hline (isBoundary_of_comment hlead)]
      simp only [surroundings_of_comment hlead, ancestors, above, below, parentsOf, peersOf, hline,
        hindent]
    -- in place of the comment stand its blanks, in the same column
    have hcut : resolve blanked cursor = some (.of ancestors (above ++ below)) := by
      have hline' : ((lines text.toList).set cursor lead)[cursor]? = some lead :=
        List.getElem?_set_self hlt
      rw [resolve, hblanked, resolveLines_eq hline' (isBoundary_of_blank hlead)]
      simp only [surroundings_of_blank hlead, beside_set, ancestors, above, below, parentsOf,
        peersOf, hline, hindent]
    refine ⟨hcut, htext, ?_⟩
    rw [htext, hcut, Option.some_inj, Context.of_inj, List.append_assoc, List.append_cancel_left_eq]
    simp [commentKey]

/-- A comment with a colon at the level of a key. -/
def notedText : String := "a: 1\n# b: 2\nc: 3"

/-- The comment is one of the keys beside the cursor, and without it there is one key less. -/
theorem resolve_on_notedText :
    resolve notedText 1 = some (.nested [] ["a", "# b", "c"]) ∧
      ∀ blanked : String, lines blanked.toList = ["a: 1".toList, [], "c: 3".toList] →
        resolve blanked 1 = some (.nested [] ["a", "c"]) ∧
          resolve notedText 1 ≠ resolve blanked 1 := by
  refine ⟨by decide, fun blanked hblanked => ?_⟩
  obtain ⟨hcut, -, hiff⟩ := (@resolve_on_comment notedText 1 _ rfl (by decide)).2 blanked hblanked
  exact ⟨hcut, fun heq => hiff.mp heq (by decide)⟩

/-- The comment `# b: 2` is taken for a key, which the blank line in its place is not. -/
theorem comment_taken_for_key :
    (lines "a: 1\n# b: 2\n".toList)[1]? = some "# b: 2".toList ∧
      isComment "# b: 2".toList = true ∧
      lines "a: 1\n\n".toList =
        (lines "a: 1\n# b: 2\n".toList).set 1 (indentation "# b: 2".toList) ∧
      resolve "a: 1\n# b: 2\n" 1 = some (.nested [] ["a", "# b"]) ∧
      resolve "a: 1\n\n" 1 = some (.nested [] ["a"]) := by
  decide

end PrimitiveDesk.Layout
