import PrimitiveDesk.Proofs.Layout.BlockContext
import PrimitiveDesk.Proofs.Layout.ContextScope

/-!
# The lines that a search finds

The searches away from a line go from line to line and remember a level: the one for enclosing keys
lowers it with every line that dedents, the one for keys beside the line ends at the first such
line. Here the lines that they find are told by their numbers instead, each by the lines between it
and the cursor's line (`IsParent`, `IsPeer`, `IsOutdent`).

Along a walk, `ancestorKeys` finds the parents, with the level lowered on the way
(`ancestorKeys_reach`), and `siblingKeys` the peers with what ends them (`siblingKeys_reach`).
-/

namespace PrimitiveDesk.Layout

open Text

/-! ## Lines by number -/

/-- The line with a number; past the end, an empty one. -/
def lineAt (lines : List (List Char)) (i : Nat) : List Char :=
  lines.getD i []

/-- The lines strictly between two line numbers, whichever of them is smaller. -/
def between (lines : List (List Char)) (a b : Nat) : List (List Char) :=
  (lines.take (max a b)).drop (min a b + 1)

/-- The numbers of the lines on one side of the cursor's line, nearest first. -/
def numbersBeside (lines : List (List Char)) (cursor : Nat) : Direction → List Nat
  | .backward => (List.range cursor).reverse
  | .forward => List.range' (cursor + 1) (lines.length - (cursor + 1))

/-- A line counts, and no marker stands from it up to the cursor's line. -/
def IsReached (lines : List (List Char)) (cursor i : Nat) : Prop :=
  isRelevant (lineAt lines i) = true ∧
    ∀ l ∈ lineAt lines i :: between lines cursor i, isBoundary l = false

/-- A line dedents below the cursor's line and below all lines between them that count. -/
def IsParent (lines : List (List Char)) (cursor i : Nat) : Prop :=
  IsReached lines cursor i ∧
    indentCount (lineAt lines i) < indentCount (lineAt lines cursor) ∧
    ∀ l ∈ between lines cursor i, isRelevant l = true →
      indentCount (lineAt lines i) < indentCount l

/-- A line has the column of the cursor's line, and no line between them that counts leaves it. -/
def IsPeer (lines : List (List Char)) (cursor i : Nat) : Prop :=
  IsReached lines cursor i ∧
    indentCount (lineAt lines i) = indentCount (lineAt lines cursor) ∧
    ∀ l ∈ between lines cursor i, isRelevant l = true →
      indentCount (lineAt lines cursor) ≤ indentCount l

/-- A line dedents below the cursor's line. -/
def IsOutdent (lines : List (List Char)) (cursor i : Nat) : Prop :=
  IsReached lines cursor i ∧ indentCount (lineAt lines i) < indentCount (lineAt lines cursor)

section Decidable

variable (lines : List (List Char)) (cursor i : Nat)

instance : Decidable (IsReached lines cursor i) := inferInstanceAs (Decidable (_ ∧ _))
instance : Decidable (IsParent lines cursor i) := inferInstanceAs (Decidable (_ ∧ _))
instance : Decidable (IsPeer lines cursor i) := inferInstanceAs (Decidable (_ ∧ _))
instance : Decidable (IsOutdent lines cursor i) := inferInstanceAs (Decidable (_ ∧ _))

end Decidable

/-- The first key of the line with a number. -/
def keyAt? (lines : List (List Char)) (i : Nat) : Option String :=
  firstKey? (lineAt lines i)

/-- The second key of the line with a number, if it has two. -/
def secondKeyAt? (lines : List (List Char)) (i : Nat) : Option String :=
  (structuralKeys (lineAt lines i))[1]?

/-! ## A walk from line zero -/

@[simp] theorem lineAt_zero (l : List Char) (ls : List (List Char)) : lineAt (l :: ls) 0 = l := rfl

@[simp] theorem lineAt_succ (l : List Char) (ls : List (List Char)) (k : Nat) :
    lineAt (l :: ls) (k + 1) = lineAt ls k := rfl

@[simp] theorem between_zero (line : List Char) (walk : List (List Char)) (k : Nat) :
    between (line :: walk) 0 (k + 1) = walk.take k := by
  simp [between]

section Steps

variable {line l : List Char} {walk : List (List Char)} {k : Nat}

private theorem isReached_one : IsReached (line :: l :: walk) 0 1 ↔
    isRelevant l = true ∧ isBoundary l = false := by
  simp [IsReached]

/-- A line further on is reached over the next line. -/
private theorem isReached_step : IsReached (line :: l :: walk) 0 (k + 2) ↔
    isBoundary l = false ∧ IsReached (line :: walk) 0 (k + 1) := by
  simp only [IsReached, between_zero, lineAt_succ, List.take_succ_cons, List.forall_mem_cons]
  tauto

private theorem isParent_one : IsParent (line :: l :: walk) 0 1 ↔
    IsReached (line :: l :: walk) 0 1 ∧ indentCount l < indentCount line := by
  simp [IsParent]

/-- A line further on encloses if the next line does not hide it. -/
private theorem isParent_step : IsParent (line :: l :: walk) 0 (k + 2) ↔
    isBoundary l = false ∧
      (isRelevant l = true → indentCount (lineAt walk k) < indentCount l) ∧
      IsParent (line :: walk) 0 (k + 1) := by
  simp only [IsParent, isReached_step, between_zero, lineAt_zero, lineAt_succ, List.take_succ_cons,
    List.forall_mem_cons]
  tauto

private theorem isPeer_one : IsPeer (line :: l :: walk) 0 1 ↔
    IsReached (line :: l :: walk) 0 1 ∧ indentCount l = indentCount line := by
  simp [IsPeer]

/-- A line further on stands beside if the next line does not leave the column. -/
private theorem isPeer_step : IsPeer (line :: l :: walk) 0 (k + 2) ↔
    isBoundary l = false ∧ (isRelevant l = true → indentCount line ≤ indentCount l) ∧
      IsPeer (line :: walk) 0 (k + 1) := by
  simp only [IsPeer, isReached_step, between_zero, lineAt_zero, lineAt_succ, List.take_succ_cons,
    List.forall_mem_cons]
  tauto

private theorem isOutdent_one : IsOutdent (line :: l :: walk) 0 1 ↔
    IsReached (line :: l :: walk) 0 1 ∧ indentCount l < indentCount line := by
  simp [IsOutdent]

private theorem isOutdent_step : IsOutdent (line :: l :: walk) 0 (k + 2) ↔
    isBoundary l = false ∧ IsOutdent (line :: walk) 0 (k + 1) := by
  simp only [IsOutdent, isReached_step, lineAt_zero, lineAt_succ]
  tauto

/-- What encloses an enclosing line encloses the line. -/
private theorem isParent_step_of_lt (hboundary : isBoundary l = false)
    (hrelevant : isRelevant l = true) (hlt : indentCount l < indentCount line) :
    IsParent (line :: l :: walk) 0 (k + 2) ↔ IsParent (l :: walk) 0 (k + 1) := by
  rw [isParent_step]
  simp only [IsParent, IsReached, between_zero, lineAt_zero, lineAt_succ]
  constructor
  · rintro ⟨-, hl, hreached, -, hbetween⟩
    exact ⟨hreached, hl hrelevant, hbetween⟩
  · rintro ⟨hreached, hl, hbetween⟩
    exact ⟨hboundary, fun _ => hl, hreached, Nat.lt_trans hl hlt, hbetween⟩

/-- A line that does not dedent hides no enclosing line. -/
private theorem isParent_step_of_le (hboundary : isBoundary l = false)
    (hle : isRelevant l = true → indentCount line ≤ indentCount l) :
    IsParent (line :: l :: walk) 0 (k + 2) ↔ IsParent (line :: walk) 0 (k + 1) := by
  rw [isParent_step]
  constructor
  · rintro ⟨-, -, hparent⟩
    exact hparent
  · intro hparent
    have hlt : indentCount (lineAt walk k) < indentCount line := hparent.2.1
    exact ⟨hboundary, fun h => Nat.lt_of_lt_of_le hlt (hle h), hparent⟩

end Steps

/-! ## The walks -/

/-- The first keys of the lines of a walk that a test picks. -/
def found (walk : List (List Char)) (p : Nat → Bool) : List String :=
  ((List.range walk.length).filter p).filterMap (keyAt? walk)

/-- What is `found` on a walk, line by line. -/
private theorem found_cons (l : List Char) (walk : List (List Char)) (p : Nat → Bool) :
    found (l :: walk) p =
      (if p 0 then (firstKey? l).toList else []) ++ found walk fun k => p (k + 1) := by
  have hkeys : keyAt? (l :: walk) ∘ Nat.succ = keyAt? walk := rfl
  have hfirst : keyAt? (l :: walk) 0 = firstKey? l := rfl
  rw [found, List.length_cons, List.range_succ_eq_map, List.filter_cons, List.filter_map]
  split
  · rw [List.filterMap_cons, List.filterMap_map, hkeys, hfirst]
    cases firstKey? l <;> rfl
  · rw [List.filterMap_map, hkeys]
    rfl

@[simp] theorem found_false (walk : List (List Char)) : found walk (fun _ => false) = [] := by
  simp [found]

/-- `ancestorKeys` finds the lines that enclose the line from which the walk starts. -/
theorem ancestorKeys_reach (line : List Char) (walk : List (List Char)) :
    ancestorKeys (indentCount line) (reach walk) =
      found walk fun k => IsParent (line :: walk) 0 (k + 1) := by
  -- along the walk; the level is always that of a line, first the cursor's, then each parent's
  induction walk generalizing line with
  | nil => rfl
  | cons l walk ih =>
    rw [found_cons]
    cases hboundary : isBoundary l with
    | true =>
      rw [reach_cons_of_boundary hboundary]
      simp [isParent_one, isParent_step, isReached_one, hboundary, ancestorKeys]
    | false =>
      cases hrelevant : isRelevant l with
      | false =>
        rw [reach_cons_of_not_relevant hboundary hrelevant, ih]
        simp [isParent_one, isParent_step_of_le, isReached_one, hboundary, hrelevant]
      | true =>
        rw [reach_cons_of_relevant hboundary hrelevant]
        by_cases hlt : indentCount l < indentCount line
        · -- the line is found, and the walk goes on as if it had started there
          rw [ancestorKeys_cons_of_lt hlt, ih]
          simp [isParent_one, isParent_step_of_lt, isReached_one, hboundary, hrelevant, hlt]
        · -- what encloses the first line is less indented than this one anyway
          have hle : indentCount line ≤ indentCount l := Nat.le_of_not_lt hlt
          rw [ancestorKeys, if_neg hlt, ih]
          simp [isParent_one, isParent_step_of_le, isReached_one, hboundary, hrelevant, hle, hlt]

/-- A line has at most two `structuralKeys`. -/
private theorem length_structuralKeys_le (line : List Char) : (structuralKeys line).length ≤ 2 := by
  unfold structuralKeys
  dsimp only
  split <;> split <;> simp

/-- The second key of the first line of a walk that a test picks. -/
def secondOfFirst (walk : List (List Char)) (p : Nat → Bool) : List String :=
  (((List.range walk.length).find? p).bind (secondKeyAt? walk)).toList

/-- `secondOfFirst` stops at the first line that is picked. -/
private theorem secondOfFirst_cons (l : List Char) (walk : List (List Char)) (p : Nat → Bool) :
    secondOfFirst (l :: walk) p =
      if p 0 then (structuralKeys l)[1]?.toList else secondOfFirst walk fun k => p (k + 1) := by
  have hkeys : secondKeyAt? (l :: walk) ∘ Nat.succ = secondKeyAt? walk := rfl
  rw [secondOfFirst, List.length_cons, List.range_succ_eq_map, List.find?_cons]
  cases p 0 with
  | true => rfl
  | false =>
    simp only [List.find?_map, Option.bind_map, hkeys]
    rfl

/-- `siblingKeys` ends at a line that dedents. -/
private theorem siblingKeys_of_lt (d : Direction) {level : Nat} {l : List Char}
    (h : indentCount l < level) (ls : List (List Char)) :
    siblingKeys d level (l :: ls) =
      if d = .backward then (structuralKeys l)[1]?.toList else [] := by
  cases d with
  | forward => rw [siblingKeys_forward_cons_of_lt h, if_neg (by decide)]
  | backward =>
    rw [siblingKeys_backward_cons_of_lt h, if_pos rfl]
    have hlength := length_structuralKeys_le l
    revert hlength
    rcases structuralKeys l with _ | ⟨_, _ | ⟨_, _ | _⟩⟩ <;> simp

/-- `siblingKeys` finds the lines that stand in the column, and going up the key on the line that
ends it. -/
theorem siblingKeys_reach (d : Direction) (line : List Char) (walk : List (List Char)) :
    siblingKeys d (indentCount line) (reach walk) =
      (found walk fun k => IsPeer (line :: walk) 0 (k + 1)) ++
        if d = .backward then secondOfFirst walk fun k => IsOutdent (line :: walk) 0 (k + 1)
        else [] := by
  -- along the walk, in a column that stays; a line that dedents ends it
  induction walk with
  | nil => cases d <;> rfl
  | cons l walk ih =>
    rw [found_cons, secondOfFirst_cons]
    cases hboundary : isBoundary l with
    | true =>
      rw [reach_cons_of_boundary hboundary]
      simp [isPeer_one, isPeer_step, isOutdent_one, isOutdent_step, isReached_one, hboundary,
        siblingKeys, secondOfFirst]
    | false =>
      cases hrelevant : isRelevant l with
      | false =>
        rw [reach_cons_of_not_relevant hboundary hrelevant, ih]
        simp [isPeer_one, isPeer_step, isOutdent_one, isOutdent_step, isReached_one, hboundary,
          hrelevant]
      | true =>
        rw [reach_cons_of_relevant hboundary hrelevant]
        rcases Nat.lt_trichotomy (indentCount l) (indentCount line) with hlt | heq | hgt
        · -- the walk ends here: all lines behind are hidden, and this is the first that dedents
          rw [siblingKeys_of_lt d hlt]
          simp [isPeer_one, isPeer_step, isOutdent_one, isReached_one, hboundary, hrelevant, hlt,
            Nat.ne_of_lt hlt, Nat.not_le_of_lt hlt]
        · rw [siblingKeys_cons_of_eq d heq, ih]
          simp [isPeer_one, isPeer_step, isOutdent_one, isOutdent_step, isReached_one, hboundary,
            hrelevant, heq]
        · rw [siblingKeys_cons_of_gt d hgt, ih]
          simp [isPeer_one, isPeer_step, isOutdent_one, isOutdent_step, isReached_one, hboundary,
            hrelevant, Nat.le_of_lt hgt, Nat.ne_of_gt hgt, Nat.lt_asymm hgt]

/-! ## From walks to line numbers -/

/-- The number of the line so many steps away from the cursor's. -/
def place (cursor : Nat) : Direction → Nat → Nat
  | .backward, k => cursor - k
  | .forward, k => cursor + k

section Numbers

variable {lines : List (List Char)} {cursor : Nat} (hcursor : cursor < lines.length)

include hcursor

private theorem length_beside_backward : (beside lines cursor .backward).length = cursor := by
  simp [beside, Nat.min_eq_left (Nat.le_of_lt hcursor)]

/-- The numbers of the lines `beside` the cursor, in the order of the walk. -/
private theorem numbersBeside_eq (d : Direction) :
    numbersBeside lines cursor d =
      (List.range (beside lines cursor d).length).map fun k => place cursor d (k + 1) := by
  cases d with
  | backward =>
    rw [length_beside_backward hcursor, numbersBeside, List.range_eq_range', List.reverse_range',
      ← List.range_eq_range']
    refine List.map_congr_left fun k _ => ?_
    simp only [place]
    omega
  | forward =>
    rw [numbersBeside, List.range'_eq_map_range]
    simp only [beside, List.length_drop, place]
    refine List.map_congr_left fun k _ => ?_
    omega

variable {d : Direction} {k : Nat} (hk : k < (beside lines cursor d).length)

include hk

/-- The line so many steps away is that of the walk. -/
private theorem lineAt_place :
    lineAt lines (place cursor d (k + 1)) = lineAt (beside lines cursor d) k := by
  cases d with
  | backward =>
    rw [length_beside_backward hcursor] at hk
    have hlength : (lines.take cursor).length = cursor := by simp [Nat.le_of_lt hcursor]
    have hplace : cursor - 1 - k < cursor := by omega
    simp only [lineAt, List.getD_eq_getElem?_getD, place, beside]
    rw [List.getElem?_reverse (by rwa [hlength]), hlength, List.getElem?_take_of_lt hplace,
      Nat.sub_sub, Nat.add_comm 1 k]
  | forward =>
    have hplace : cursor + (k + 1) = cursor + 1 + k := by omega
    simp only [lineAt, List.getD_eq_getElem?_getD, place, beside, List.getElem?_drop, hplace]

/-- The lines between two lines are those that the walk from one to the other passes. -/
private theorem mem_between_place {l : List Char} :
    l ∈ between lines cursor (place cursor d (k + 1)) ↔ l ∈ (beside lines cursor d).take k := by
  cases d with
  | backward =>
    rw [length_beside_backward hcursor] at hk
    have hlength : (lines.take cursor).length = cursor := by simp [Nat.le_of_lt hcursor]
    have hmax : max cursor (cursor - (k + 1)) = cursor := by omega
    have hmin : min cursor (cursor - (k + 1)) + 1 = cursor - k := by omega
    simp only [between, place, beside]
    rw [hmax, hmin, List.take_reverse, hlength, List.mem_reverse]
  | forward =>
    have hmax : max cursor (cursor + (k + 1)) = cursor + 1 + k := by omega
    have hmin : min cursor (cursor + (k + 1)) = cursor := by omega
    simp only [between, place, beside]
    rw [hmax, hmin, List.take_drop]

/-! Seen from the cursor's line, the lines in a direction are those of the walk. -/

private theorem isReached_place : IsReached lines cursor (place cursor d (k + 1)) ↔
    IsReached (lineAt lines cursor :: beside lines cursor d) 0 (k + 1) := by
  simp only [IsReached, lineAt_place hcursor hk, List.forall_mem_cons,
    mem_between_place hcursor hk, between_zero, lineAt_succ]

/-- `IsParent` on the walk. -/
private theorem isParent_place : IsParent lines cursor (place cursor d (k + 1)) ↔
    IsParent (lineAt lines cursor :: beside lines cursor d) 0 (k + 1) := by
  simp only [IsParent, isReached_place hcursor hk, lineAt_place hcursor hk,
    mem_between_place hcursor hk, between_zero, lineAt_succ, lineAt_zero]

/-- `IsPeer` on the walk. -/
private theorem isPeer_place : IsPeer lines cursor (place cursor d (k + 1)) ↔
    IsPeer (lineAt lines cursor :: beside lines cursor d) 0 (k + 1) := by
  simp only [IsPeer, isReached_place hcursor hk, lineAt_place hcursor hk,
    mem_between_place hcursor hk, between_zero, lineAt_succ, lineAt_zero]

private theorem isOutdent_place : IsOutdent lines cursor (place cursor d (k + 1)) ↔
    IsOutdent (lineAt lines cursor :: beside lines cursor d) 0 (k + 1) := by
  simp only [IsOutdent, isReached_place hcursor hk, lineAt_place hcursor hk, lineAt_succ,
    lineAt_zero]

omit hk

variable {P Q : Nat → Prop} [DecidablePred P] [DecidablePred Q]
  (hPQ : ∀ k < (beside lines cursor d).length, P (place cursor d (k + 1)) ↔ Q k)

include hPQ

/-- A test on line numbers picks the lines that it picks on the walk. -/
private theorem filter_numbersBeside :
    (numbersBeside lines cursor d).filter P =
      ((List.range (beside lines cursor d).length).filter Q).map
        fun k => place cursor d (k + 1) := by
  rw [numbersBeside_eq hcursor, List.filter_map]
  congr 1
  exact List.filter_congr fun k hk => decide_eq_decide.mpr (hPQ k (List.mem_range.mp hk))

/-- The keys of the lines that a test picks by number are those `found` on the walk. -/
private theorem keys_numbersBeside :
    ((numbersBeside lines cursor d).filter P).filterMap (keyAt? lines) =
      found (beside lines cursor d) fun k => Q k := by
  rw [filter_numbersBeside hcursor hPQ, List.filterMap_map, found]
  refine List.filterMap_congr fun k hk => ?_
  have hlt : k < (beside lines cursor d).length := List.mem_range.mp (List.mem_filter.mp hk).1
  simp only [keyAt?, Function.comp_apply, lineAt_place hcursor hlt]

/-- The first line that a test picks by number is the first one of the walk. -/
private theorem second_numbersBeside :
    (((numbersBeside lines cursor d).find? P).bind (secondKeyAt? lines)).toList =
      secondOfFirst (beside lines cursor d) fun k => Q k := by
  rw [← List.head?_filter, filter_numbersBeside hcursor hPQ, List.head?_map, List.head?_filter,
    secondOfFirst]
  cases hfind : (List.range (beside lines cursor d).length).find? fun k => Q k with
  | none => rfl
  | some k =>
    have hlt : k < (beside lines cursor d).length :=
      List.mem_range.mp (List.mem_of_find?_eq_some hfind)
    simp only [Option.map_some, Option.bind_some, secondKeyAt?, lineAt_place hcursor hlt]

end Numbers

/-- Both searches from a line, in both directions. The one for enclosing keys gives the first keys
of the lines that dedent below all lines on the way to them; the one for keys beside the line gives
those of the lines in its column before the first line that dedents, and going up also the key that
follows the dash on that line. -/
theorem keys_of_searched_lines {lines : List (List Char)} {cursor : Nat}
    (hcursor : cursor < lines.length) (d : Direction) :
    parentsOf lines cursor d =
        ((numbersBeside lines cursor d).filter (IsParent lines cursor)).filterMap (keyAt? lines) ∧
      peersOf lines cursor d =
        ((numbersBeside lines cursor d).filter (IsPeer lines cursor)).filterMap (keyAt? lines) ++
          if d = .backward then
            (((numbersBeside lines cursor d).find? (IsOutdent lines cursor)).bind
              (secondKeyAt? lines)).toList
          else [] := by
  have hline : lines[cursor]? = some (lineAt lines cursor) := by simp [lineAt, hcursor]
  rw [parentsOf, peersOf, hline,
    keys_numbersBeside hcursor fun k hk => isParent_place hcursor hk,
    keys_numbersBeside hcursor fun k hk => isPeer_place hcursor hk,
    second_numbersBeside hcursor fun k hk => isOutdent_place hcursor hk]
  exact ⟨ancestorKeys_reach _ _, siblingKeys_reach d _ _⟩

/-- A document behind a marker, with a comment, a line that dedents without a key, and a line in
front of the last one that hides it. -/
def unevenLines : List (List Char) :=
  ["old: 1", "---", "root:", " : lone", "  # note: 1", "    deep: 1", "  - name: x", "      far: 2",
    "    size: 3", "", "    typed", "    next: 4", "  end: 5", "    late: 6"].map String.toList

/-- The line without a key encloses too, and the line that dedents first brings the key behind its
dash. -/
theorem keys_of_unevenLines :
    10 < unevenLines.length ∧
      (numbersBeside unevenLines 10 .backward).filter (IsParent unevenLines 10) = [6, 3, 2] ∧
      parentsOf unevenLines 10 .backward = ["items", "root"] ∧
      peersOf unevenLines 10 .backward = ["size", "name"] ∧
      (numbersBeside unevenLines 10 .forward).filter (IsPeer unevenLines 10) = [11] ∧
      peersOf unevenLines 10 .forward = ["next"] := by
  have hcursor : 10 < unevenLines.length := by decide
  obtain ⟨hparents, habove⟩ := keys_of_searched_lines hcursor .backward
  have hbelow := (keys_of_searched_lines hcursor .forward).2
  exact ⟨hcursor, by decide, hparents.trans (by decide), habove.trans (by decide), by decide,
    hbelow.trans (by decide)⟩

end PrimitiveDesk.Layout
