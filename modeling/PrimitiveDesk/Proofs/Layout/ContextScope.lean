import Mathlib.Data.List.DropRight
import Mathlib.Data.List.Forall2
import PrimitiveDesk.Proofs.Layout.LineShape

/-!
# What a context depends on

The context of a line depends on the line and on the lines around it that count, up to the nearest
document markers; and of each of these lines only the part up to its first colon matters
(`LineShape.of_append_colon`). Two texts that agree there (`Agree`) give the same context, whatever
stands behind the markers, in blank lines and comments, or in values, and however the lines are
numbered.

Lines that agree have the same shape (`Agree.shape`), so `ancestorKeys` and `siblingKeys` take the
same keys from them, and `resolve` gives the same context (`resolve_of_agree`).
-/

namespace PrimitiveDesk.Layout

open Text

/-- Two lines agree if they are equal or have the same text up to their first colons. -/
inductive Agree : List Char → List Char → Prop
  | refl (line : List Char) : Agree line line
  | colon {stem : List Char} (hstem : ':' ∉ stem) (tail tail' : List Char) :
    Agree (stem ++ ':' :: tail) (stem ++ ':' :: tail')

/-- The lines that count between a line and the nearest document marker above it. -/
def countedAbove (lines : List (List Char)) (cursor : Nat) : List (List Char) :=
  ((lines.take cursor).rtakeWhile fun l => !isBoundary l).filter isRelevant

/-- The lines that count between a line and the nearest document marker below it. -/
def countedBelow (lines : List (List Char)) (cursor : Nat) : List (List Char) :=
  ((lines.drop (cursor + 1)).takeWhile fun l => !isBoundary l).filter isRelevant

/-! ## Lines up to their first colon -/

/-- Every text is cut behind its leading blanks. -/
theorem exists_lead (cs : List Char) :
    ∃ lead body, cs = lead ++ body ∧ (∀ c ∈ lead, isBlank c) ∧
      ∀ c ∈ body.head?, isBlank c = false := by
  refine ⟨cs.takeWhile isBlank, cs.dropWhile isBlank, ?_, ?_, ?_⟩
  · rw [List.takeWhile_append_dropWhile]
  · exact fun c hc => List.mem_takeWhile_imp hc
  · exact fun c hc => not_blank_of_head?_trimStart hc

/-- A colon, like any other character that is not blank, ends the gap behind a dash. -/
private theorem takeWhile_gap {gap : List Char} (hgap : ∀ c ∈ gap, isBlank c) {rest : List Char}
    (hrest : ∀ c ∈ rest.head?, isBlank c = false) (tail : List Char) :
    (gap ++ rest ++ ':' :: tail).takeWhile isBlank = gap ∧
      (gap ++ rest ++ ':' :: tail).dropWhile isBlank = rest ++ ':' :: tail := by
  rw [List.append_assoc, List.takeWhile_append_of_pos hgap, List.dropWhile_append_of_pos hgap]
  cases rest with
  | nil =>
    have hcolon : isBlank ':' = false := by decide
    simp [hcolon]
  | cons c rest =>
    have hc : isBlank c = false := hrest c rfl
    simp [hc]

/-- What stands behind the first colon is part of no key of `LineShape.of`. -/
theorem LineShape.of_append_colon {stem : List Char} (hstem : ':' ∉ stem) :
    ∃ lead dash? key, ∀ tail, of (stem ++ ':' :: tail) = ⟨lead, dash?, key, ':' :: tail⟩ := by
  obtain ⟨lead, body, rfl, hlead, hbody⟩ := exists_lead stem
  cases body with
  | nil =>
    -- the colon is the first character behind the blanks
    refine ⟨lead, none, [], fun tail => ?_⟩
    rw [List.append_nil, of_lead_append hlead (by decide) (by decide)]
    exact ofBody_append_colon lead none (List.not_mem_nil) tail
  | cons c body =>
    have hc : isBlank c = false := hbody c rfl
    have hcolon : ':' ∉ c :: body := fun h => hstem (List.mem_append_right lead h)
    -- a dash is cut off with the blanks behind it, and the key starts there
    by_cases hdash : c = '-'
    · subst hdash
      obtain ⟨gap, rest, rfl, hgap, hrest⟩ := exists_lead body
      refine ⟨lead, some gap, rest, fun tail => ?_⟩
      have hrestcolon : ':' ∉ rest := fun h =>
        hcolon (List.mem_cons_of_mem _ (List.mem_append_right gap h))
      obtain ⟨htake, hdrop⟩ := takeWhile_gap hgap hrest tail
      rw [List.append_assoc, List.cons_append, of_lead_append_dash hlead, htake, hdrop,
        ofBody_append_colon _ _ hrestcolon]
    · refine ⟨lead, none, c :: body, fun tail => ?_⟩
      rw [List.append_assoc, List.cons_append, of_lead_append hlead hc hdash,
        ← List.cons_append, ofBody_append_colon _ _ hcolon]

/-- A token without a colon is found in front of a colon or not at all. -/
theorem prefix_append_colon_iff {token : List Char} (htoken : ':' ∉ token) (body tail : List Char) :
    token <+: body ++ ':' :: tail ↔ token <+: body := by
  induction token generalizing body with
  | nil => simp
  | cons c token ih =>
    rw [List.mem_cons, not_or] at htoken
    cases body with
    | nil => simp [Ne.symm htoken.1]
    | cons b body => rw [List.cons_append, List.cons_prefix_cons, List.cons_prefix_cons,
        ih htoken.2]

/-- What stands behind the first colon does not make a line a marker. -/
private theorem isBoundary_append_colon (stem : List Char) :
    ∃ b, ∀ tail, isBoundary (stem ++ ':' :: tail) = b := by
  obtain ⟨lead, body, rfl, hlead, hbody⟩ := exists_lead stem
  have hstart : ':' ∉ documentStart.toList := by decide
  have hend : ':' ∉ documentEnd.toList := by decide
  -- the markers have no colon, so they are found in front of the first one
  refine ⟨decide (documentStart.toList <+: body ∨ documentEnd.toList <+: body), fun tail => ?_⟩
  rw [Bool.eq_iff_iff, decide_eq_true_iff, ← prefix_append_colon_iff hstart body tail,
    ← prefix_append_colon_iff hend body tail, List.append_assoc]
  cases body with
  | nil => exact isBoundary_iff_of_lead_append hlead (by decide) tail
  | cons c body => exact isBoundary_iff_of_lead_append hlead (hbody c rfl) _

/-! ## Lines that agree -/

namespace Agree

variable {line line' : List Char}

/-- Lines that agree have the same shape but for what stands behind the colon. -/
theorem shape (h : Agree line line') :
    ∃ lead dash? key rest rest', LineShape.of line = ⟨lead, dash?, key, rest⟩ ∧
      LineShape.of line' = ⟨lead, dash?, key, rest'⟩ ∧ rest.isEmpty = rest'.isEmpty := by
  cases h with
  | refl => exact ⟨_, _, _, _, _, rfl, rfl, rfl⟩
  | colon hstem tail tail' =>
    obtain ⟨lead, dash?, key, hof⟩ := LineShape.of_append_colon hstem
    exact ⟨lead, dash?, key, _, _, hof tail, hof tail', rfl⟩

/-- Lines that agree are both markers or none is. -/
private theorem isBoundary_eq (h : Agree line line') : isBoundary line = isBoundary line' := by
  cases h with
  | refl => rfl
  | @colon stem _ tail tail' =>
    obtain ⟨b, hb⟩ := isBoundary_append_colon stem
    rw [hb, hb]

private theorem indentCount_eq (h : Agree line line') : indentCount line = indentCount line' := by
  obtain ⟨lead, dash?, key, rest, rest', hof, hof', -⟩ := h.shape
  rw [indentCount, indentCount, hof, hof']

private theorem structuralKeys_eq (h : Agree line line') :
    structuralKeys line = structuralKeys line' := by
  obtain ⟨lead, dash?, key, rest, rest', hof, hof', -⟩ := h.shape
  rw [structuralKeys, structuralKeys, hof, hof']

private theorem firstKey?_eq (h : Agree line line') : firstKey? line = firstKey? line' := by
  rw [firstKey?, firstKey?, h.structuralKeys_eq]

private theorem entryColumn?_eq (h : Agree line line') :
    entryColumn? line = entryColumn? line' := by
  obtain ⟨lead, dash?, key, rest, rest', hof, hof', -⟩ := h.shape
  rw [entryColumn?, entryColumn?, hof, hof']

private theorem ownKey_eq (h : Agree line line') : ownKey line = ownKey line' := by
  obtain ⟨lead, dash?, key, rest, rest', hof, hof', hrest⟩ := h.shape
  rw [ownKey, ownKey, hasFinishedKey, hasFinishedKey, hof, hof', hrest, h.structuralKeys_eq]

end Agree

/-! ## Walks over lines that agree -/

/-- `ancestorKeys` of lines that agree one by one. -/
private theorem ancestorKeys_of_agree {ls ms : List (List Char)} (h : List.Forall₂ Agree ls ms)
    (level : Nat) : ancestorKeys level ls = ancestorKeys level ms := by
  induction h generalizing level with
  | nil => rfl
  | cons hl _ ih =>
    rw [ancestorKeys, ancestorKeys, hl.indentCount_eq, hl.firstKey?_eq, ih, ih]

/-- `siblingKeys` of lines that agree one by one. -/
private theorem siblingKeys_of_agree (d : Direction) (level : Nat) {ls ms : List (List Char)}
    (h : List.Forall₂ Agree ls ms) : siblingKeys d level ls = siblingKeys d level ms := by
  induction h with
  | nil => rfl
  | @cons l m ls ms hl _ ih =>
    rw [siblingKeys.eq_def, siblingKeys.eq_def]
    simp only [hl.indentCount_eq, hl.firstKey?_eq, hl.structuralKeys_eq, ih]

/-- `surroundings` of a line among lines, if all of them agree. -/
private theorem surroundings_of_agree {line line' : List Char}
    {above above' below below' : List (List Char)} (hline : Agree line line')
    (habove : List.Forall₂ Agree above above') (hbelow : List.Forall₂ Agree below below') :
    surroundings line above below = surroundings line' above' below' := by
  unfold surroundings
  simp only [hline.entryColumn?_eq, hline.indentCount_eq, hline.ownKey_eq,
    ancestorKeys_of_agree habove, siblingKeys_of_agree _ _ habove, siblingKeys_of_agree _ _ hbelow]

theorem reach_cons_of_boundary {l : List Char} (h : isBoundary l = true) (ls : List (List Char)) :
    reach (l :: ls) = [] := by
  rw [reach, List.takeWhile_cons_of_neg (by simp [h]), List.filter_nil]

/-- `reach` passes over a line that does not count. -/
theorem reach_cons_of_not_relevant {l : List Char} (h : isBoundary l = false)
    (hrelevant : isRelevant l = false) (ls : List (List Char)) : reach (l :: ls) = reach ls := by
  rw [reach, List.takeWhile_cons_of_pos (by simp [h]),
    List.filter_cons_of_neg (by simp [hrelevant]), reach]

/-- `reach` stops over a line that counts. -/
theorem reach_cons_of_relevant {l : List Char} (h : isBoundary l = false)
    (hrelevant : isRelevant l = true) (ls : List (List Char)) :
    reach (l :: ls) = l :: reach ls := by
  rw [reach, List.takeWhile_cons_of_pos (by simp [h]), List.filter_cons_of_pos hrelevant, reach]

/-- A walk up meets the lines that count above, from the bottom up. -/
theorem reach_backward (lines : List (List Char)) (cursor : Nat) :
    reach (beside lines cursor .backward) = (countedAbove lines cursor).reverse := by
  rw [countedAbove, List.rtakeWhile, List.filter_reverse, List.reverse_reverse]
  rfl

theorem reach_forward (lines : List (List Char)) (cursor : Nat) :
    reach (beside lines cursor .forward) = countedBelow lines cursor :=
  rfl

/-- `resolveLines` gives every line a context. -/
private theorem exists_resolveLines {lines : List (List Char)} {cursor : Nat} {line : List Char}
    (h : lines[cursor]? = some line) : ∃ context, resolveLines lines cursor = some context := by
  rw [resolveLines, h]
  dsimp only
  split
  · exact ⟨_, rfl⟩
  · split
    · exact ⟨_, rfl⟩
    · exact ⟨_, rfl⟩

/-- A line of a text has a context, and it is the same in every text in which a line that agrees
with it stands among lines that agree with those around it. -/
theorem resolve_of_agree {text text' : String} {cursor cursor' : Nat} {line line' : List Char}
    (hline : (lines text.toList)[cursor]? = some line)
    (hline' : (lines text'.toList)[cursor']? = some line') (hagree : Agree line line')
    (habove : List.Forall₂ Agree (countedAbove (lines text.toList) cursor)
      (countedAbove (lines text'.toList) cursor'))
    (hbelow : List.Forall₂ Agree (countedBelow (lines text.toList) cursor)
      (countedBelow (lines text'.toList) cursor')) :
    ∃ context, resolve text cursor = some context ∧ resolve text' cursor' = some context := by
  have hsurroundings := surroundings_of_agree hagree (List.rel_reverse habove) hbelow
  have hresolve : resolve text cursor = resolve text' cursor' := by
    unfold resolve resolveLines
    rw [hline, hline']
    simp only [hagree.isBoundary_eq, reach_backward, reach_forward, hsurroundings]
  obtain ⟨context, hcontext⟩ := exists_resolveLines hline
  exact ⟨context, hcontext, hresolve ▸ hcontext⟩

/-- A document between two others, with values and a comment. -/
def valuedText : String :=
  "x: 1\n---\ndefs: 2\n - ext: sse\n   type: a\n# z\n...\ny:"

/-- The same keys alone, with other values and line breaks. -/
def bareText : String :=
  "defs:\r\n\n - ext:\n   type: b"

/-- The context is the same in the text without the values, the markers and the comment. -/
theorem resolve_valuedText :
    countedAbove (lines valuedText.toList) 4 = ["defs: 2".toList, " - ext: sse".toList] ∧
      resolve bareText 3 = some (.nested ["items", "defs"] ["ext", "type"]) := by
  have agree (stem tail tail' : String) (h : ':' ∉ stem.toList) :
      Agree (stem.toList ++ ':' :: tail.toList) (stem.toList ++ ':' :: tail'.toList) :=
    .colon h _ _
  have hvalued : countedAbove (lines valuedText.toList) 4 =
      ["defs: 2".toList, " - ext: sse".toList] := by decide
  have hbare : countedAbove (lines bareText.toList) 3 = ["defs:".toList, " - ext:".toList] := by
    decide
  have habove : List.Forall₂ Agree (countedAbove (lines valuedText.toList) 4)
      (countedAbove (lines bareText.toList) 3) := by
    rw [hvalued, hbare]
    exact .cons (agree "defs" " 2" "" (by decide)) <|
      .cons (agree " - ext" " sse" "" (by decide)) .nil
  have hbelow : List.Forall₂ Agree (countedBelow (lines valuedText.toList) 4)
      (countedBelow (lines bareText.toList) 3) := .nil
  obtain ⟨context, hcontext, hresult⟩ := @resolve_of_agree valuedText bareText 4 3 _ _ rfl rfl
    (agree "   type" " a" " b" (by decide)) habove hbelow
  have hnested : resolve valuedText 4 = some (.nested ["items", "defs"] ["ext", "type"]) := by
    decide
  refine ⟨hvalued, ?_⟩
  rw [hresult, ← hcontext, hnested]

end PrimitiveDesk.Layout
