import PrimitiveDesk.Proofs.Layout.BlockContext

/-!
# Blocks that a key behind a dash opens

The key on the line of a dash may open a block too, and then the line stands for two steps of a
path: the entry and the key (`Step.entryField`). The walk up takes one step for each line, the
entry. So on every line of such a block the key is missing from the path; and in the column of the
block the line of the dash is the first that dedents, so that `siblingKeys` takes its key for a key
of the same mapping.
-/

namespace PrimitiveDesk.Layout

open Text

/-- No step of a path is seen longer than it is. -/
private theorem length_flatMap_seen_le (path : List Step) :
    (path.flatMap Step.seen).length ≤ (path.flatMap Step.names).length := by
  induction path with
  | nil => exact Nat.le_refl 0
  | cons step path ih =>
    have hstep : step.seen.length ≤ step.names.length := by
      cases step <;> simp [Step.seen, Step.names]
    simp only [List.flatMap_cons, List.length_append]
    omega

/-- On every line with a key of a mapping that the key behind a dash opens, `resolve` names the
entry and the path to its sequence as they are seen, without the key, so that the path is never the
true one; and the key stands among the keys of the mapping, behind those above the line. -/
theorem resolve_below_dash (page : Page) (i : Nat) (line : Line) (place : Place)
    (hrow : page.rows[i]? = some ⟨line, some place⟩) {key : String} {outer : List Step}
    (h : place.path = .entryField key :: outer) :
    place.ancestors = key :: itemsKey :: outer.flatMap Step.names ∧
      resolve page.text (page.before.length + i) =
        some (.nested (itemsKey :: outer.flatMap Step.seen)
          (place.above ++ key :: place.key :: place.below)) ∧
      itemsKey :: outer.flatMap Step.seen ≠ place.ancestors := by
  have hancestors : place.ancestors = key :: itemsKey :: outer.flatMap Step.names := by
    rw [Place.ancestors, h]
    rfl
  refine ⟨hancestors, ?_, ?_⟩
  · rw [resolve_row page i line place hrow]
    simp [Place.seenAncestors, Place.seenSiblings, h, Step.seen, Step.stray]
  · -- the true path has the key besides, and no step of the rest is longer than it is seen
    intro heq
    have hlength := congrArg List.length heq
    have hle := length_flatMap_seen_le outer
    rw [hancestors, List.length_cons, List.length_cons, List.length_cons] at hlength
    omega

/-- A sequence with an entry whose first key opens a mapping. -/
def dashTree : Block :=
  .mapping [.nested { chars := "definitions".toList } { chars := "".toList } (Nat.succPNat 1)
    (.sequence [.mapping (Nat.succPNat 0)
      (.nested { chars := "key".toList } { chars := "".toList } (Nat.succPNat 1)
        (.mapping [.inline { chars := "a".toList } { chars := " 1".toList },
          .inline { chars := "b".toList } { chars := " 2".toList }]))
      [.inline { chars := "other".toList } { chars := " 3".toList }]])]

/-- The tree behind another document, with a comment. -/
def dashPage : Page where
  before := [{ chars := "name: y".toList }, { chars := "--- # next".toList }]
  indent := 0
  root := dashTree
  rows := (dashTree.rows 0 []).take 3 ++ ⟨{ chars := "# c".toList }, none⟩ ::
    (dashTree.rows 0 []).drop 3
  after := []
  padded := .row _ <| .row _ <| .row _ <| .filler (.inr ⟨[], " c".toList, rfl, by simp⟩) <|
    .row _ <| .row _ .nil
  isMarker_before := by decide
  isMarker_after := by decide

/-- The last key of the mapping that the key behind the dash opens. -/
def dashPlace : Place := ⟨[.entryField "key", .field "definitions"], ["a"], "b", []⟩

/-- The key behind the dash stands between the keys of the mapping that it opens. -/
theorem resolve_dashPage :
    dashPage.rows[4]?.bind Row.place? = some dashPlace ∧
      dashPlace.ancestors = ["key", "items", "definitions"] ∧
      resolve dashPage.text 6 = some (.nested ["items", "definitions"] ["a", "key", "b"]) := by
  obtain ⟨hancestors, hresolve, -⟩ := resolve_below_dash dashPage 4 _ dashPlace rfl rfl
  exact ⟨rfl, hancestors, hresolve⟩

/-- The key behind the dash opens the mapping of the line, but is missing from the path and stands
among the keys of the mapping instead. -/
theorem dash_key_misplaced :
    dashPage.text =
        "name: y\n--- # next\ndefinitions:\n  - key:\n      a: 1\n# c\n      b: 2\n    other: 3" ∧
      dashPage.rows[4]?.bind Row.place? = some dashPlace ∧
      dashPlace.ancestors = ["key", "items", "definitions"] ∧
      dashPlace.siblings = ["a", "b"] ∧
      ¬∃ rest siblings, resolve dashPage.text 6 =
        some (.nested ("key" :: "items" :: rest) siblings) ∧ "key" ∉ siblings := by
  refine ⟨by decide, rfl, rfl, rfl, ?_⟩
  rintro ⟨rest, siblings, h, -⟩
  have hresolve : resolve dashPage.text 6 =
      some (.nested ["items", "definitions"] ["a", "key", "b"]) := by decide
  rw [hresolve, Option.some.injEq, Context.nested.injEq] at h
  exact absurd (List.head_eq_of_cons_eq h.1) (by decide)

end PrimitiveDesk.Layout
