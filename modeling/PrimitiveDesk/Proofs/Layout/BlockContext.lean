import PrimitiveDesk.Proofs.Layout.BlockTree

/-!
# The context of every key of a block layout

The context of a line is guessed from indentation alone. On a text that is laid out as a tree, every
line with a key gets its seen place (`resolve_row`): the walk up meets one step for each line of the
key's path, and the two walks beside it meet the other keys of its mapping. If no key behind a dash
opens a block, the seen place is the true one (`resolve_page`).

The proof goes along the tree. What has been written above a block is summed up by the answers that
the walks up would give at the block's column, and what follows below it by one fact, that the
block's column is left at once (`Dedents`). Blank lines and comments change nothing
(`Padded.exists_split`).
-/

namespace PrimitiveDesk.Layout

open Text

/-! ## Walks -/

/-- `ancestorKeys` passes over lines that do not dedent. -/
private theorem ancestorKeys_append_of_le {level : Nat} {ls : List (List Char)}
    (h : ∀ l ∈ ls, level ≤ indentCount l) (rest : List (List Char)) :
    ancestorKeys level (ls ++ rest) = ancestorKeys level rest := by
  induction ls with
  | nil => rfl
  | cons l ls ih =>
    have hl : ¬indentCount l < level := Nat.not_lt.mpr (h l List.mem_cons_self)
    rw [List.cons_append, ancestorKeys, if_neg hl]
    exact ih fun l' hl' => h l' (List.mem_cons_of_mem l hl')

/-- `siblingKeys` takes the first key of a line in its column. -/
theorem siblingKeys_cons_of_eq (d : Direction) {level : Nat} {l : List Char}
    (h : indentCount l = level) (ls : List (List Char)) :
    siblingKeys d level (l :: ls) = (firstKey? l).toList ++ siblingKeys d level ls := by
  rw [siblingKeys.eq_def]
  exact if_pos h

/-- `siblingKeys` passes over a deeper line. -/
theorem siblingKeys_cons_of_gt (d : Direction) {level : Nat} {l : List Char}
    (h : level < indentCount l) (ls : List (List Char)) :
    siblingKeys d level (l :: ls) = siblingKeys d level ls := by
  rw [siblingKeys.eq_def]
  exact (if_neg (by omega)).trans (if_neg (by omega))

/-- Going down, `siblingKeys` ends at the first line that dedents. -/
theorem siblingKeys_forward_cons_of_lt {level : Nat} {l : List Char}
    (h : indentCount l < level) (ls : List (List Char)) :
    siblingKeys .forward level (l :: ls) = [] := by
  rw [siblingKeys.eq_def]
  exact (if_neg (by omega)).trans (if_pos h)

/-- Going up, `siblingKeys` ends at the first line that dedents, with the second key of that line if
it has two. -/
theorem siblingKeys_backward_cons_of_lt {level : Nat} {l : List Char}
    (h : indentCount l < level) (ls : List (List Char)) :
    siblingKeys .backward level (l :: ls) =
      match structuralKeys l with
      | [_, key] => [key]
      | _ => [] := by
  rw [siblingKeys.eq_def]
  refine ((if_neg (by omega)).trans (if_pos h)).trans ?_
  rcases structuralKeys l with _ | ⟨_, _ | ⟨_, _ | _⟩⟩ <;> rfl

/-- `siblingKeys` passes over lines that are indented deeper. -/
theorem siblingKeys_append_of_lt (d : Direction) {level : Nat} {ls : List (List Char)}
    (h : ∀ l ∈ ls, level < indentCount l) (rest : List (List Char)) :
    siblingKeys d level (ls ++ rest) = siblingKeys d level rest := by
  induction ls with
  | nil => rfl
  | cons l ls ih =>
    rw [List.cons_append, siblingKeys_cons_of_gt d (h l List.mem_cons_self)]
    exact ih fun l' hl' => h l' (List.mem_cons_of_mem l hl')

/-- `ancestorKeys` stops over a line that dedents, and goes on from its column. -/
theorem ancestorKeys_cons_of_lt {level : Nat} {l : List Char} (h : indentCount l < level)
    (ls : List (List Char)) :
    ancestorKeys level (l :: ls) = (firstKey? l).toList ++ ancestorKeys (indentCount l) ls := by
  rw [ancestorKeys, if_pos h]

/-- The column `level` is left at the first of the lines, if there is one. -/
def Dedents (level : Nat) (ls : List (List Char)) : Prop :=
  ∀ l ∈ ls.head?, indentCount l < level

private theorem Dedents.mono {m n : Nat} {ls : List (List Char)} (h : Dedents m ls) (hmn : m ≤ n) :
    Dedents n ls :=
  fun l hl => Nat.lt_of_lt_of_le (h l hl) hmn

/-- Going down, `siblingKeys` finds nothing if its column is left at once. -/
private theorem siblingKeys_of_dedents {level : Nat} {ls : List (List Char)}
    (h : Dedents level ls) :
    siblingKeys .forward level ls = [] := by
  cases ls with
  | nil => rfl
  | cons l ls =>
    have hl : indentCount l < level := h l rfl
    exact siblingKeys_forward_cons_of_lt hl ls

/-! ## The lines of a mapping seen from its column -/

/-- Seen from the column of a key, the block that it opens is passed over, also from its end. -/
private theorem Field.lt_indentCount_of_mem_inner (column : Nat) (path : List Step) (f : Field) :
    (∀ l ∈ (f.inner column path).map Row.seen, column < indentCount l) ∧
      ∀ l ∈ ((f.inner column path).map Row.seen).reverse, column < indentCount l := by
  have hall : ∀ l ∈ (f.inner column path).map Row.seen, column < indentCount l := by
    intro l hl
    obtain ⟨r, hr, rfl⟩ := List.mem_map.mp hl
    exact (f.structured_of_mem_inner column path r hr).le_indent
  exact ⟨hall, fun l hl => hall l (List.mem_reverse.mp hl)⟩

/-- Going down over `fieldRows`, `siblingKeys` gives the names of the fields. -/
private theorem siblingKeys_fieldRows_append (indent : Nat) (path : List Step) (above : List String)
    (fields : List Field) {below : List (List Char)} (hbelow : Dedents indent below) :
    siblingKeys .forward indent ((fieldRows indent path above fields).map Row.seen ++ below) =
      fields.map Field.name := by
  induction fields generalizing above with
  | nil =>
    rw [fieldRows]
    exact siblingKeys_of_dedents hbelow
  | cons f rest ih =>
    rw [fieldRows, List.map_append, List.map_cons, List.append_assoc, List.cons_append,
      Row.seen, siblingKeys_cons_of_eq .forward (indentCount_fieldLine indent f.key f.tail),
      siblingKeys_append_of_lt .forward (f.lt_indentCount_of_mem_inner indent _).1, ih, firstKey?,
      structuralKeys_fieldLine]
    rfl

/-- Deeper columns are left at the next field or behind the mapping. -/
private theorem dedents_fieldRows_append (indent : Nat) (path : List Step) (above : List String)
    (fields : List Field) {below : List (List Char)} (hbelow : Dedents indent below) :
    Dedents (indent + 1) ((fieldRows indent path above fields).map Row.seen ++ below) := by
  cases fields with
  | nil =>
    rw [fieldRows]
    exact hbelow.mono (Nat.le_succ indent)
  | cons f rest =>
    intro l hl
    obtain rfl : (fieldLine indent f.key f.tail).seen = l := by
      simpa [fieldRows, Row.seen] using hl
    rw [indentCount_fieldLine]
    exact Nat.lt_succ_self indent

/-- Deeper columns are left at the next entry or behind the sequence. -/
private theorem dedents_entryRows_append (indent : Nat) (path : List Step) (entries : List Entry)
    {below : List (List Char)} (hbelow : Dedents indent below) :
    Dedents (indent + 1) ((entryRows indent path entries).map Row.seen ++ below) := by
  cases entries with
  | nil =>
    rw [entryRows]
    exact hbelow.mono (Nat.le_succ indent)
  | cons e rest =>
    intro l hl
    -- the first line of an entry is that of its dash, in the column of the sequence
    cases e with
    | scalar gap text =>
      obtain rfl : (scalarLine indent gap text).seen = l := by
        simpa [entryRows, Entry.rows, Row.seen] using hl
      rw [indentCount_scalarLine]
      exact Nat.lt_succ_self indent
    | mapping gap first fields =>
      obtain rfl : (entryLine indent gap first.key first.tail).seen = l := by
        simpa [entryRows, Entry.rows, Row.seen] using hl
      rw [indentCount_entryLine]
      exact Nat.lt_succ_self indent

/-! ## Contexts inside a tree -/

/-- Every row that carries a key gets its seen place as context, if the lines `above` (nearest
first) and `below` surround the rows. -/
def Located : List (List Char) → List Row → List (List Char) → Prop
  | _, [], _ => True
  | above, r :: rest, below =>
    (∀ p, r.place? = some p →
      surroundings r.seen above (rest.map Row.seen ++ below) =
        (p.seenAncestors, p.seenSiblings)) ∧
    Located (r.seen :: above) rest below

/-- Rows are located part by part, each with the other part around it. -/
private theorem located_append (above : List (List Char)) (xs ys : List Row)
    (below : List (List Char)) :
    Located above (xs ++ ys) below ↔
      Located above xs (ys.map Row.seen ++ below) ∧
      Located ((xs.map Row.seen).reverse ++ above) ys below := by
  induction xs generalizing above with
  | nil => simp [Located]
  | cons x xs ih => simp [Located, ih, and_assoc]

mutual

/-- Every key inside a block gets its seen place as context. What stands above the block gives its
path, and a stray key if the block was opened behind a dash. -/
private theorem Block.located {indent : Nat} {path : List Step} {above below : List (List Char)}
    (hup : ancestorKeys indent above = path.flatMap Step.seen)
    (hbeside : siblingKeys .backward indent above = (path.take 1).flatMap Step.stray)
    (hbelow : Dedents indent below) : (b : Block) → Located above (b.rows indent path) below
  | .mapping fields => by
    rw [Block.rows]
    exact located_fieldRows hup hbeside hbelow fields
  | .sequence entries => by
    rw [Block.rows]
    exact located_entryRows hup hbelow entries

/-- `Block.located` for the fields of a mapping, of which the keys above are known. -/
private theorem located_fieldRows {indent : Nat} {path : List Step} {keys : List String}
    {above below : List (List Char)} (hup : ancestorKeys indent above = path.flatMap Step.seen)
    (hbeside : siblingKeys .backward indent above = keys ++ (path.take 1).flatMap Step.stray)
    (hbelow : Dedents indent below) :
    (fields : List Field) → Located above (fieldRows indent path keys fields) below
  | [] => by
    rw [fieldRows]
    trivial
  | f :: rest => by
    have hline : indentCount (fieldLine indent f.key f.tail).seen = indent :=
      indentCount_fieldLine indent f.key f.tail
    have hinner := f.lt_indentCount_of_mem_inner indent (.field f.name :: path)
    have hrest := siblingKeys_fieldRows_append indent path (f.name :: keys) rest hbelow
    rw [fieldRows, List.cons_append]
    refine ⟨?_, ?_⟩
    · -- the block below the key is passed over on the walk down
      rintro p ⟨⟩
      have hdown := (siblingKeys_append_of_lt .forward hinner.1 _).trans hrest
      rw [List.map_append, List.append_assoc]
      simp [surroundings, Row.seen, hup, hbeside, hdown, Place.seenAncestors, Place.seenSiblings,
        f.name_key]
    · rw [located_append]
      constructor
      · apply f.located_inner
        · intro level hlevel
          refine (ancestorKeys_cons_of_lt (hline.trans_lt hlevel) above).trans ?_
          rw [hline, hup, firstKey?, structuralKeys_fieldLine]
          rfl
        · intro level hlevel
          refine (siblingKeys_backward_cons_of_lt (hline.trans_lt hlevel) above).trans ?_
          rw [structuralKeys_fieldLine]
          rfl
        · exact dedents_fieldRows_append indent path (f.name :: keys) rest hbelow
      · -- for the next field, the line of this one stands beside it
        apply located_fieldRows
        · have hline' : ¬indentCount (fieldLine indent f.key f.tail).seen < indent := by omega
          rw [ancestorKeys_append_of_le fun l hl => (hinner.2 l hl).le, ancestorKeys, Row.seen,
            if_neg hline', hup]
        · rw [siblingKeys_append_of_lt .backward hinner.2, Row.seen,
            siblingKeys_cons_of_eq .backward hline, hbeside, firstKey?, structuralKeys_fieldLine]
          rfl
        · exact hbelow

/-- The block that a key opens is located if the line of the key is. -/
private theorem Field.located_inner {column : Nat} {path : List Step}
    {above below : List (List Char)}
    (hup : ∀ level, column < level → ancestorKeys level above = path.flatMap Step.seen)
    (hbeside : ∀ level, column < level →
      siblingKeys .backward level above = (path.take 1).flatMap Step.stray)
    (hbelow : Dedents (column + 1) below) :
    (f : Field) → Located above (f.inner column path) below
  | .inline _ _ => by
    rw [Field.inner]
    trivial
  | .nested _ _ deeper block => by
    rw [Field.inner]
    have hlt : column < column + deeper := Nat.lt_add_of_pos_right deeper.pos
    exact block.located (hup _ hlt) (hbeside _ hlt) (hbelow.mono hlt)

/-- `Block.located` for the entries of a sequence. -/
private theorem located_entryRows {indent : Nat} {path : List Step} {above below : List (List Char)}
    (hup : ancestorKeys indent above = path.flatMap Step.seen) (hbelow : Dedents indent below) :
    (entries : List Entry) → Located above (entryRows indent path entries) below
  | [] => by
    rw [entryRows]
    trivial
  | e :: rest => by
    rw [entryRows, located_append]
    constructor
    · exact e.located hup (dedents_entryRows_append indent path rest hbelow)
    · apply located_entryRows _ hbelow
      rw [ancestorKeys_append_of_le, hup]
      intro l hl
      obtain ⟨r, hr, rfl⟩ := List.mem_map.mp (List.mem_reverse.mp hl)
      exact (e.structured_of_mem_rows indent path r hr).le_indent

/-- `Block.located` for one entry. -/
private theorem Entry.located {indent : Nat} {path : List Step} {above below : List (List Char)}
    (hup : ancestorKeys indent above = path.flatMap Step.seen)
    (hbelow : Dedents (indent + 1) below) :
    (e : Entry) → Located above (e.rows indent path) below
  | .scalar gap text => by
    rw [Entry.rows]
    refine ⟨?_, trivial⟩
    rintro p ⟨⟩
  | .mapping gap first rest => by
    have hgap := gap.pos
    have hline : indentCount (entryLine indent gap first.key first.tail).seen = indent :=
      indentCount_entryLine indent gap first.key first.tail
    have hbelow' : Dedents (indent + 1 + gap) below := hbelow.mono (by omega)
    have hinner :=
      first.lt_indentCount_of_mem_inner (indent + 1 + gap) (.entryField first.name :: path)
    -- whatever the column behind the dash, the line of the dash gives the entry and its key
    have hup' : ∀ level, indent < level →
        ancestorKeys level ((entryLine indent gap first.key first.tail).seen :: above) =
          itemsKey :: path.flatMap Step.seen := by
      intro level hlevel
      rw [ancestorKeys_cons_of_lt (by omega), hline, hup, firstKey?, structuralKeys_entryLine]
      rfl
    have hbeside' : ∀ level, indent < level →
        siblingKeys .backward level ((entryLine indent gap first.key first.tail).seen :: above) =
          [first.name] := by
      intro level hlevel
      rw [siblingKeys_backward_cons_of_lt (by omega), structuralKeys_entryLine]
      rfl
    rw [Entry.rows, List.cons_append]
    refine ⟨?_, ?_⟩
    · rintro p ⟨⟩
      have hdown := (siblingKeys_append_of_lt .forward hinner.1 _).trans
        (siblingKeys_fieldRows_append _ (.entry :: path) [first.name] rest hbelow')
      rw [List.map_append, List.append_assoc]
      simp [surroundings, Row.seen, hup, hdown, Place.seenAncestors, Place.seenSiblings, Step.seen,
        Step.stray, first.name_key]
    · rw [located_append]
      constructor
      · apply first.located_inner
        · intro level hlevel
          exact hup' level (by omega)
        · intro level hlevel
          exact hbeside' level (by omega)
        · exact dedents_fieldRows_append _ (.entry :: path) [first.name] rest hbelow'
      · -- for the other keys of the entry, the line of the dash is the step up and the first key
        apply located_fieldRows
        · rw [ancestorKeys_append_of_le fun l hl => (hinner.2 l hl).le]
          exact hup' _ (by omega)
        · rw [siblingKeys_append_of_lt .backward hinner.2]
          exact hbeside' _ (by omega)
        · exact hbelow'

end

/-! ## Pages -/

/-- Blank lines and comments do not count and are no markers. -/
private theorem Line.IsFiller.seen {l : Line} (h : l.IsFiller) :
    isRelevant l.seen = false ∧ isBoundary l.seen = false := by
  rcases h with hblank | ⟨lead, text, hchars, hlead⟩
  · have hseen : ∀ c ∈ l.seen, isBlank c := fun c hc => hblank c (mem_of_mem_dropReturn hc)
    exact ⟨isRelevant_of_blank hseen, isBoundary_of_blank hseen⟩
  · have hseen : l.seen = lead ++ '#' :: dropReturn text := by
      rw [Line.seen, hchars, dropReturn_append_cons (by decide)]
    rw [hseen]
    constructor
    · rw [isRelevant_lead_append hlead (by decide)]
      decide
    · rw [← Bool.not_eq_true, isBoundary_iff_of_lead_append hlead (by decide)]
      rintro (h | h)
      · exact absurd (List.cons_prefix_cons.mp h).1 (by decide)
      · exact absurd (List.cons_prefix_cons.mp h).1 (by decide)

/-- Marker lines end every walk. -/
private theorem Line.IsMarker.seen {l : Line} (h : l.IsMarker) : isBoundary l.seen = true := by
  rcases h with ⟨rest, hchars⟩ | ⟨rest, hchars⟩
  · have hseen : l.seen = [] ++ '-' :: '-' :: '-' :: dropReturn rest := by
      rw [Line.seen, ← hchars]
      exact dropReturn_append_cons (by decide) ['-', '-'] rest
    rw [hseen, isBoundary_iff_of_lead_append (by simp) (by decide)]
    exact Or.inl ⟨dropReturn rest, rfl⟩
  · have hseen : l.seen = [] ++ '.' :: '.' :: '.' :: dropReturn rest := by
      rw [Line.seen, ← hchars]
      exact dropReturn_append_cons (by decide) ['.', '.'] rest
    rw [hseen, isBoundary_iff_of_lead_append (by simp) (by decide)]
    exact Or.inr ⟨dropReturn rest, rfl⟩

/-- Of a padded list of rows, the lines for which `isRelevant` holds are those of the rows. -/
private theorem Padded.filter_seen {rows padded : List Row} (h : Padded rows padded)
    (hrows : ∀ r ∈ rows, isRelevant r.seen = true) :
    (padded.map Row.seen).filter isRelevant = rows.map Row.seen := by
  induction h with
  | nil => rfl
  | @filler line rows padded hline _ ih =>
    rw [List.map_cons, List.filter_cons_of_neg (by simp [Row.seen, hline.seen.1])]
    exact ih hrows
  | row r _ ih =>
    rw [List.map_cons, List.filter_cons_of_pos (hrows r List.mem_cons_self), List.map_cons,
      ih fun r' hr' => hrows r' (List.mem_cons_of_mem r hr')]

/-- A row with a key is a row of the unpadded list, and the lines around it that count are the rows
around it there. -/
theorem Padded.exists_split {rows padded : List Row} (h : Padded rows padded)
    (hrows : ∀ r ∈ rows, isRelevant r.seen = true) {xs ys : List Row} {r : Row} {p : Place}
    (hsplit : padded = xs ++ r :: ys) (hp : r.place? = some p) :
    ∃ us vs, rows = us ++ r :: vs ∧ (xs.map Row.seen).filter isRelevant = us.map Row.seen ∧
      (ys.map Row.seen).filter isRelevant = vs.map Row.seen := by
  induction h generalizing xs with
  | nil => exact absurd hsplit (by simp)
  | @filler line rows padded hline _ ih =>
    cases xs with
    | nil =>
      -- the row carries a key and is no filler
      rw [List.nil_append, List.cons.injEq] at hsplit
      rw [← hsplit.1] at hp
      exact absurd hp (by simp)
    | cons x xs =>
      rw [List.cons_append, List.cons.injEq] at hsplit
      obtain ⟨us, vs, heq, hus, hvs⟩ := ih hrows hsplit.2
      refine ⟨us, vs, heq, ?_, hvs⟩
      rw [← hsplit.1, List.map_cons, List.filter_cons_of_neg (by simp [Row.seen, hline.seen.1])]
      exact hus
  -- the row is this one, or it is found further on
  | @row r' rows padded rest ih =>
    have hrest : ∀ r ∈ rows, isRelevant r.seen = true :=
      fun r hr => hrows r (List.mem_cons_of_mem r' hr)
    cases xs with
    | nil =>
      rw [List.nil_append, List.cons.injEq] at hsplit
      obtain ⟨rfl, rfl⟩ := hsplit
      exact ⟨[], rows, rfl, rfl, rest.filter_seen hrest⟩
    | cons x xs =>
      rw [List.cons_append, List.cons.injEq] at hsplit
      obtain ⟨rfl, hsplit⟩ := hsplit
      obtain ⟨us, vs, heq, hus, hvs⟩ := ih hrest hsplit
      refine ⟨r' :: us, vs, by rw [heq, List.cons_append], ?_, hvs⟩
      rw [List.map_cons, List.filter_cons_of_pos (hrows r' List.mem_cons_self), hus,
        List.map_cons]

/-- Padding adds no rows with keys. -/
private theorem Padded.mem_of_place? {rows padded : List Row} (h : Padded rows padded) {r : Row}
    {p : Place} (hr : r ∈ padded) (hp : r.place? = some p) : r ∈ rows := by
  induction h with
  | nil => exact hr
  | @filler line rows padded _ _ ih =>
    rcases List.mem_cons.mp hr with rfl | hr
    · cases hp
    · exact ih hr
  | row r' _ ih =>
    rcases List.mem_cons.mp hr with rfl | hr
    · exact List.mem_cons_self
    · exact List.mem_cons_of_mem r' (ih hr)

/-- Padding adds no markers. -/
private theorem Padded.not_boundary {rows padded : List Row} (h : Padded rows padded)
    (hrows : ∀ r ∈ rows, isBoundary r.seen = false) :
    ∀ r ∈ padded, isBoundary r.seen = false := by
  induction h with
  | nil => exact hrows
  | @filler line rows padded hline _ ih =>
    intro r hr
    rcases List.mem_cons.mp hr with rfl | hr
    · exact hline.seen.2
    · exact ih hrows r hr
  | row r' _ ih =>
    intro r hr
    rcases List.mem_cons.mp hr with rfl | hr
    · exact hrows r List.mem_cons_self
    · exact ih (fun r hr => hrows r (List.mem_cons_of_mem r' hr)) r hr

/-- `reach` ends in front of the first marker. -/
private theorem reach_append {ls rest : List (List Char)} (hls : ∀ l ∈ ls, isBoundary l = false)
    (hrest : ∀ l ∈ rest.head?, isBoundary l = true) :
    reach (ls ++ rest) = ls.filter isRelevant := by
  have htake : rest.takeWhile (fun l => !isBoundary l) = [] := by
    cases rest with
    | nil => rfl
    | cons l rest => rw [List.takeWhile_cons_of_neg (by simp [hrest l rfl])]
  rw [reach, List.takeWhile_append_of_pos (by simpa using hls), htake, List.append_nil]

/-- `resolveLines` finds the context of a line from the walks away from it. -/
theorem resolveLines_append {above below : List (List Char)} {line : List Char}
    {ancestors siblings : List String} (hline : isBoundary line = false)
    (h : surroundings line (reach above.reverse) (reach below) = (ancestors, siblings))
    (hsiblings : siblings ≠ []) :
    resolveLines (above ++ line :: below) above.length = some (.nested ancestors siblings) := by
  have hget : (above ++ line :: below)[above.length]? = some line := by simp
  have hup : beside (above ++ line :: below) above.length .backward = above.reverse := by
    simp [beside]
  have hdown : beside (above ++ line :: below) above.length .forward = below := by
    simp [beside]
  rw [resolveLines, hget]
  simp only [hline, hup, hdown, h]
  -- with a key beside the line the context is no new document
  cases siblings with
  | nil => exact absurd rfl hsiblings
  | cons s siblings => cases ancestors <;> rfl

/-- A walk up from a line of the document ends at the marker in front of the document. -/
private theorem Page.reach_above (page : Page) (xs : List Row)
    (hxs : ∀ r ∈ xs, isBoundary r.seen = false) :
    reach ((page.before.map Line.seen ++ xs.map Row.seen).reverse) =
      ((xs.map Row.seen).filter isRelevant).reverse := by
  rw [List.reverse_append, reach_append, List.filter_reverse]
  · intro l hl
    obtain ⟨r, hr, rfl⟩ := List.mem_map.mp (List.mem_reverse.mp hl)
    exact hxs r hr
  · intro l hl
    rw [List.head?_reverse, List.getLast?_map] at hl
    obtain ⟨m, hm, rfl⟩ := Option.map_eq_some_iff.mp hl
    exact (page.isMarker_before m hm).seen

/-- A walk down from a line of the document ends at the marker behind the document. -/
private theorem Page.reach_below (page : Page) (xs : List Row)
    (hxs : ∀ r ∈ xs, isBoundary r.seen = false) :
    reach (xs.map Row.seen ++ page.after.map Line.seen) = (xs.map Row.seen).filter isRelevant := by
  rw [reach_append]
  · intro l hl
    obtain ⟨r, hr, rfl⟩ := List.mem_map.mp hl
    exact hxs r hr
  · intro l hl
    rw [List.head?_map] at hl
    obtain ⟨m, hm, rfl⟩ := Option.map_eq_some_iff.mp hl
    exact (page.isMarker_after m hm).seen

/-- `Text.lines` cuts the text of a page into the lines of the page. -/
theorem Page.lines_text (page : Page) (h : page.lines ≠ []) :
    Text.lines page.text.toList = page.lines.map Line.seen := by
  have hbreak : ∀ l ∈ page.lines.map Line.chars, '\n' ∉ l := by
    intro l hl
    obtain ⟨line, -, rfl⟩ := List.mem_map.mp hl
    exact line.noBreak
  rw [Page.text, String.toList_ofList, lines_intercalate (by simpa using h) hbreak, List.map_map]
  rfl

/-- Every line of a page that carries a key gets the seen place of that key as its context. -/
theorem resolve_row (page : Page) (i : Nat) (line : Line) (place : Place)
    (h : page.rows[i]? = some ⟨line, some place⟩) :
    resolve page.text (page.before.length + i) =
      some (.nested place.seenAncestors place.seenSiblings) := by
  have hstructured := page.root.structured_of_mem_rows page.indent []
  have hplain : ∀ r ∈ page.rows, isBoundary r.seen = false :=
    page.padded.not_boundary fun r hr => (hstructured r hr).not_boundary
  -- the rows of the page are split at the row of the key, and so are those without padding
  obtain ⟨xs, ys, hrows, rfl⟩ :
      ∃ xs ys, page.rows = xs ++ ⟨line, some place⟩ :: ys ∧ xs.length = i := by
    obtain ⟨hi, hget⟩ := List.getElem?_eq_some_iff.mp h
    refine ⟨page.rows.take i, page.rows.drop (i + 1), ?_, List.length_take_of_le hi.le⟩
    rw [← hget, ← List.drop_eq_getElem_cons hi, List.take_append_drop]
  obtain ⟨us, vs, hsplit, hus, hvs⟩ :=
    page.padded.exists_split (fun r hr => (hstructured r hr).relevant) hrows rfl
  have hlocated : Located [] (us ++ ⟨line, some place⟩ :: vs) [] := by
    rw [← hsplit]
    exact page.root.located rfl rfl (by simp [Dedents])
  have hsurroundings := ((located_append [] us _ []).mp hlocated).2.1 place rfl
  rw [List.append_nil, List.append_nil] at hsurroundings
  -- the lines of the text are those of the page
  have hlines : page.lines.map Line.seen =
      (page.before.map Line.seen ++ xs.map Row.seen) ++
        line.seen :: (ys.map Row.seen ++ page.after.map Line.seen) := by
    rw [Page.lines, hrows]
    simp only [List.map_append, List.map_cons, List.map_map, List.append_assoc, List.cons_append]
    rfl
  have hne : page.lines ≠ [] := by
    intro hnil
    rw [hnil] at hlines
    simp at hlines
  have hlength : (page.before.map Line.seen ++ xs.map Row.seen).length =
      page.before.length + xs.length := by simp
  rw [resolve, page.lines_text hne, hlines, ← hlength]
  have hmem : ∀ r, r ∈ xs ∨ r = ⟨line, some place⟩ ∨ r ∈ ys → isBoundary r.seen = false := by
    intro r hr
    exact hplain r (by simpa [hrows] using hr)
  apply resolveLines_append
  · exact hmem _ (Or.inr (Or.inl rfl))
  · rw [page.reach_above xs fun r hr => hmem r (Or.inl hr),
      page.reach_below ys fun r hr => hmem r (Or.inr (Or.inr hr)), hus, hvs]
    exact hsurroundings
  · simp [Place.seenSiblings]

/-- On a page where no key behind a dash opens a block, every line that carries a key gets the place
of that key as its context: the path of its mapping, and the keys of its mapping. -/
theorem resolve_page (page : Page) (hplain : page.root.plain = true) (i : Nat) (line : Line)
    (place : Place) (h : page.rows[i]? = some ⟨line, some place⟩) :
    resolve page.text (page.before.length + i) =
      some (.nested place.ancestors place.siblings) := by
  have hnone : ∀ s ∈ ([] : List Step), s.stray = [] := by simp
  have hmem := page.padded.mem_of_place? (List.mem_of_getElem? h) rfl
  have hrow : Row.Plain ⟨line, some place⟩ :=
    page.root.plain_of_mem_rows page.indent hnone hplain _ hmem
  obtain ⟨hancestors, hsiblings⟩ := place.seen_eq (hrow place rfl)
  rw [resolve_row page i line place h, hancestors, hsiblings]

/-- A sequence with an entry that holds a nested mapping. -/
def definitionTree : Block :=
  .mapping [.nested { chars := "all".toList } { chars := [] } 2 (.sequence
    [.mapping 2 (.inline { chars := "ext".toList } { chars := " a".toList })
      [.nested { chars := "impl".toList } { chars := [] } 4
        (.mapping [.inline { chars := "body".toList } { chars := " b".toList }])],
    .scalar 1 { chars := "neon".toList }])]

/-- The tree on a page behind another document, with a comment and a blank line. -/
def definitionPage : Page where
  before := [{ chars := "name: x".toList }, { chars := "---".toList }]
  indent := 0
  root := definitionTree
  rows := ⟨{ chars := "# sse".toList }, none⟩ :: (definitionTree.rows 0 []).take 2 ++
    ⟨{ chars := [] }, none⟩ :: (definitionTree.rows 0 []).drop 2
  after := [{ chars := "...".toList }]
  padded := .filler (.inr ⟨[], " sse".toList, rfl, by simp⟩) <| .row _ <| .row _ <|
    .filler (.inl (by simp)) <| .row _ <| .row _ <| .row _ .nil
  isMarker_before := by decide
  isMarker_after := by decide

/-- The key below the dash, two lines behind it, gets its mapping and the entry around it. -/
theorem resolve_definitionPage :
    definitionPage.root.plain = true ∧
      definitionPage.rows[4]?.bind Row.place? =
        some ⟨[.entry, .field "all"], ["ext"], "impl", []⟩ ∧
      definitionPage.text =
        "name: x\n---\n# sse\nall:\n  -  ext: a\n\n     impl:\n         body: b\n  - neon\n..." ∧
      resolve definitionPage.text 6 =
        some (.nested ["items", "all"] ["ext", "impl"]) := by
  have hplain : definitionPage.root.plain = true := rfl
  refine ⟨hplain, rfl, by decide, ?_⟩
  exact resolve_page definitionPage hplain 4 _ ⟨_, _, _, _⟩ rfl

end PrimitiveDesk.Layout
