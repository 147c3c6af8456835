import PrimitiveDesk.Proofs.Layout.BlockContext

/-!
# Writing a key on a blank line

A blank line has a context: the column in which it ends says which levels enclose it and which keys
stand beside it (`surroundings_of_blank`). If a key is written in that column, with deeper lines
below it that a walk passes over (`IsPassed`), the line keeps its context, and only the new key is
added to the keys beside it (`exists_resolveLines_insert`).
-/

namespace PrimitiveDesk.Layout

open Text

/-! ## The two lines -/

/-- `LineShape.of` takes a blank line for indentation. -/
theorem LineShape.of_blank {line : List Char} (h : ∀ c ∈ line, isBlank c) :
    of line = ⟨line, none, [], []⟩ := by
  have htake : line.takeWhile isBlank = line := List.takeWhile_eq_self_iff.mpr h
  have hdrop : line.dropWhile isBlank = [] := trimStart_of_blank h
  unfold of
  rw [htake, hdrop]
  rfl

/-- The `surroundings` of a blank line are found in the column in which it ends. -/
theorem surroundings_of_blank {line : List Char} (h : ∀ c ∈ line, isBlank c)
    (above below : List (List Char)) :
    surroundings line above below =
      (ancestorKeys line.length above,
        siblingKeys .backward line.length above ++ siblingKeys .forward line.length below) := by
  have hshape := LineShape.of_blank h
  simp [surroundings, entryColumn?, indentCount, ownKey, hasFinishedKey, hshape]

/-- A key in the same column stands between the keys beside it. -/
private theorem surroundings_of_key {lead : List Char} (hlead : ∀ c ∈ lead, isBlank c) (key : Key)
    (tail : List Char) (above below : List (List Char)) :
    surroundings (lead ++ (key.chars ++ ':' :: tail)) above below =
      (ancestorKeys lead.length above,
        siblingKeys .backward lead.length above ++
          key.name :: siblingKeys .forward lead.length below) := by
  have hshape := LineShape.of_lead_append_key hlead key tail
  have htrim : trimEnd key.chars = key.chars := trimEnd_eq_self key.last_not_blank
  simp [surroundings, entryColumn?, indentCount, ownKey, hasFinishedKey, structuralKeys, hshape,
    key.ne_nil, htrim, Key.name]

/-! ## Lines that are passed over -/

/-- A walk in a column passes over the line: it is no marker, and if it counts, it is deeper. -/
structure IsPassed (level : Nat) (line : List Char) : Prop where
  not_boundary : isBoundary line = false
  deeper : isRelevant line = true → level < indentCount line

/-- Every walk passes over a blank line. -/
theorem isPassed_of_blank (level : Nat) {line : List Char} (h : ∀ c ∈ line, isBlank c) :
    IsPassed level line where
  not_boundary := isBoundary_of_blank h
  deeper := by
    intro hrelevant
    rw [isRelevant_of_blank h] at hrelevant
    cases hrelevant

/-- A walk passes over a deeper line with a key. -/
theorem isPassed_of_key {level : Nat} {lead : List Char} (hlead : ∀ c ∈ lead, isBlank c)
    (hdeeper : level < lead.length) (key : Key) (tail : List Char) :
    IsPassed level (lead ++ (key.chars ++ ':' :: tail)) where
  not_boundary := isBoundary_lead_append_key hlead key tail
  deeper := by
    intro _
    rwa [indentCount, LineShape.of_lead_append_key hlead]

/-- A walk passes over a deeper line with a dash. -/
theorem isPassed_of_dash {level : Nat} {lead : List Char} (hlead : ∀ c ∈ lead, isBlank c)
    (hdeeper : level < lead.length) (body : List Char) :
    IsPassed level (lead ++ '-' :: ' ' :: body) where
  not_boundary := isBoundary_lead_append_dash hlead body
  deeper := by
    intro _
    rwa [indentCount, LineShape.of_lead_append_dash hlead]

/-- `siblingKeys` meets what stands behind the lines that it passes over. -/
private theorem siblingKeys_reach_append (d : Direction) {level : Nat} {ls : List (List Char)}
    (h : ∀ l ∈ ls, IsPassed level l) (rest : List (List Char)) :
    siblingKeys d level (reach (ls ++ rest)) = siblingKeys d level (reach rest) := by
  have hmarkers : ∀ l ∈ ls, (!isBoundary l) = true := by
    intro l hl
    rw [(h l hl).not_boundary]
    rfl
  have hreach : reach (ls ++ rest) = ls.filter isRelevant ++ reach rest := by
    rw [reach, List.takeWhile_append_of_pos hmarkers, List.filter_append]
    rfl
  rw [hreach, siblingKeys_append_of_lt]
  intro l hl
  obtain ⟨hmem, hrelevant⟩ := List.mem_filter.mp hl
  exact (h l hmem).deeper hrelevant

/-! ## The context after writing -/

/-- The keys beside a blank line fall into those above and those below it. A key that is written on
the line, with lines below it that are passed over, comes between them, and the enclosing levels
stay. -/
theorem exists_resolveLines_insert {old : List (List Char)} {i : Nat} {line : List Char}
    (hline : old[i]? = some line) (hblank : ∀ c ∈ line, isBlank c)
    {ancestors siblings : List String}
    (h : resolveLines old i = some (.nested ancestors siblings)) :
    ∃ front back, siblings = front ++ back ∧ ∀ (key : Key) tail inner,
      (∀ l ∈ inner, IsPassed line.length l) →
        resolveLines (old.take i ++ (line ++ (key.chars ++ ':' :: tail)) ::
            (inner ++ old.drop (i + 1))) i =
          some (.nested ancestors (front ++ key.name :: back)) := by
  have hlength : (old.take i).length = i :=
    List.length_take_of_le (List.getElem?_eq_some_iff.mp hline).1.le
  -- the walks away from the blank line
  have hcontext : (ancestors, siblings) = surroundings line (reach (old.take i).reverse)
      (reach (old.drop (i + 1))) := by
    rw [resolveLines, hline] at h
    simp only [isBoundary_of_blank hblank, Bool.false_eq_true, if_false, beside] at h
    split at h
    · simp at h
    · next heq =>
      rw [Option.some_inj, Context.nested.injEq] at h
      rw [heq, h.1, h.2]
  rw [surroundings_of_blank hblank, Prod.mk.injEq] at hcontext
  refine ⟨_, _, hcontext.2, fun key tail inner hinner => ?_⟩
  have hsurroundings := surroundings_of_key hblank key tail (reach (old.take i).reverse)
    (reach (inner ++ old.drop (i + 1)))
  rw [siblingKeys_reach_append _ hinner, ← hcontext.1] at hsurroundings
  have hresolve := resolveLines_append (isBoundary_lead_append_key hblank key tail) hsurroundings
    (by simp)
  rwa [hlength] at hresolve

end PrimitiveDesk.Layout
