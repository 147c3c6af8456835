import Mathlib.Data.PNat.Defs
import PrimitiveDesk.Proofs.Layout.LineShape
import PrimitiveDesk.Proofs.Text.LineSplit

/-!
# Block layouts and their lines

A document in block style is a tree of mappings and sequences. `Block.rows` writes such a tree line
by line, and beside each line that carries a key it notes where that key stands in the tree: the
lines that lead to its mapping and the keys of that mapping. A `Page` is a text around such a
document, with blank lines and comments strewn in and other documents before and behind it.

A key may open a block also where it stands behind the dash of a sequence entry. `Block.plain` says
that no key behind a dash does so.

Every line of a block counts, is no marker, and is indented at least as far as the block
(`Block.structured_of_mem_rows`).
-/

namespace PrimitiveDesk.Layout

open Text

/-! ## Lines and keys -/

/-- A line of text. -/
structure Line where
  chars : List Char
  noBreak : '\n' ∉ chars := by decide
deriving DecidableEq

namespace Line

/-- The line without the carriage return of its line ending. -/
def seen (l : Line) : List Char := dropReturn l.chars

/-- Whether the line opens or closes a document. -/
def IsMarker (l : Line) : Prop :=
  documentStart.toList <+: l.chars ∨ documentEnd.toList <+: l.chars

instance : DecidablePred IsMarker :=
  fun l => inferInstanceAs (Decidable (documentStart.toList <+: l.chars ∨ _))

/-- Whether the line is blank or a comment. -/
def IsFiller (l : Line) : Prop :=
  (∀ c ∈ l.chars, isBlank c) ∨
    ∃ lead text, l.chars = lead ++ '#' :: text ∧ ∀ c ∈ lead, isBlank c

end Line

/-- The text of a key: it does not look like a comment, a sequence entry or a marker, and no blanks
surround it. -/
structure Key where
  chars : List Char
  ne_nil : chars ≠ [] := by decide
  noColon : ':' ∉ chars := by decide
  noBreak : '\n' ∉ chars := by decide
  head_not_blank : ∀ c ∈ chars.head?, isBlank c = false := by
    exact not_blank_of_mem_option (by decide)
  last_not_blank : ∀ c ∈ chars.getLast?, isBlank c = false := by
    exact not_blank_of_mem_option (by decide)
  head_ne_dash : chars.head? ≠ some '-' := by decide
  head_ne_hash : chars.head? ≠ some '#' := by decide
  not_documentEnd : ¬documentEnd.toList <+: chars := by decide

/-- The key as it is named in paths. -/
def Key.name (k : Key) : String := String.ofList k.chars

/-- The line of a key: what follows the colon is its value, or nothing of importance. -/
def fieldLine (indent : Nat) (key : Key) (tail : Line) : Line where
  chars := List.replicate indent ' ' ++ (key.chars ++ ':' :: tail.chars)
  noBreak := by simp [key.noBreak, tail.noBreak]

/-- The line of a sequence entry whose mapping starts behind the dash. -/
def entryLine (indent gap : Nat) (key : Key) (value : Line) : Line where
  chars := List.replicate indent ' ' ++
    '-' :: (List.replicate gap ' ' ++ (key.chars ++ ':' :: value.chars))
  noBreak := by simp [key.noBreak, value.noBreak]

/-- The line of a sequence entry that is a scalar. -/
def scalarLine (indent gap : Nat) (text : Line) : Line where
  chars := List.replicate indent ' ' ++ '-' :: (List.replicate gap ' ' ++ text.chars)
  noBreak := by simp [text.noBreak]

/-! ## Trees -/

mutual

/-- A mapping or a sequence in block style. -/
inductive Block where
  | mapping (fields : List Field)
  | sequence (entries : List Entry)

/-- A key of a mapping. -/
inductive Field where
  /-- A key with its value on the same line. -/
  | inline (key : Key) (value : Line)
  /-- A key that opens a block, `deeper` columns to the right of the key. -/
  | nested (key : Key) (tail : Line) (deeper : ℕ+) (block : Block)

/-- An entry of a sequence, `gap` blanks behind its dash. -/
inductive Entry where
  | scalar (gap : ℕ+) (text : Line)
  /-- A mapping whose first key stands on the line of the dash. The other keys are aligned with
  it. -/
  | mapping (gap : ℕ+) (first : Field) (rest : List Field)

end

namespace Field

/-- The key of a field. -/
def key : Field → Key
  | inline key _ => key
  | nested key _ _ _ => key

/-- What follows the colon of the key. -/
def tail : Field → Line
  | inline _ value => value
  | nested _ tail _ _ => tail

/-- The name of a field. -/
def name (f : Field) : String := f.key.name

/-- The `name` of a field is that of its key. -/
theorem name_key (f : Field) : f.key.name = f.name := rfl

/-- Whether the value of the key stands on its line. -/
def isInline : Field → Bool
  | inline _ _ => true
  | nested _ _ _ _ => false

end Field

mutual

/-- Whether all keys of a block that stand behind a dash have their values on the same line. -/
def Block.plain : Block → Bool
  | .mapping fields => plainFields fields
  | .sequence entries => plainEntries entries

/-- `Block.plain` for the fields of a mapping. -/
def plainFields : List Field → Bool
  | [] => true
  | f :: rest => f.plain && plainFields rest

/-- `Block.plain` for the block that a key opens, if it opens one. -/
def Field.plain : Field → Bool
  | .inline _ _ => true
  | .nested _ _ _ block => block.plain

/-- `Block.plain` for the entries of a sequence. -/
def plainEntries : List Entry → Bool
  | [] => true
  | e :: rest => e.plain && plainEntries rest

/-- `Block.plain` for an entry, whose first key stands behind the dash. -/
def Entry.plain : Entry → Bool
  | .scalar _ _ => true
  | .mapping _ first rest => first.isInline && plainFields rest

end

/-! ## Places -/

/-- A line on the way from the root to a mapping. -/
inductive Step where
  /-- The line of a key. -/
  | field (name : String)
  /-- The line of a dash, to keys aligned with the one on that line. -/
  | entry
  /-- The line of a dash, to the block that the key on that line opens. -/
  | entryField (name : String)
deriving DecidableEq

namespace Step

/-- The part of the path that the line stands for, closest step first: a key for each field, and
`itemsKey` for each entry of a sequence. -/
def names : Step → List String
  | field name => [name]
  | entry => [itemsKey]
  | entryField name => [name, itemsKey]

/-- The part of the path that a walk up takes from the line. -/
def seen : Step → List String
  | field name => [name]
  | entry => [itemsKey]
  | entryField _ => [itemsKey]

/-- The key that a walk up takes from the line for a key of the mapping below it. -/
def stray : Step → List String
  | entryField name => [name]
  | _ => []

/-- A walk up sees all of a line from which it takes no stray key. -/
theorem seen_eq_names {s : Step} (h : s.stray = []) : s.seen = s.names := by
  cases s with
  | field name => rfl
  | entry => rfl
  | entryField name => cases h

end Step

/-- Where a key stands. -/
structure Place where
  /-- The lines that lead to the key's mapping, closest first. -/
  path : List Step
  /-- The keys of the mapping above this one, nearest first. -/
  above : List String
  key : String
  /-- The keys of the mapping below this one. -/
  below : List String
deriving DecidableEq

namespace Place

/-- The path of the key's mapping, closest step first. -/
def ancestors (p : Place) : List String := p.path.flatMap Step.names

/-- The keys of the mapping in which a key stands, in the order in which a walk away from the key
meets them: those above, the key itself, those below. -/
def siblings (p : Place) : List String := p.above ++ p.key :: p.below

/-- The path that a walk up from the key gives. -/
def seenAncestors (p : Place) : List String := p.path.flatMap Step.seen

/-- The keys that the walks beside the key give. -/
def seenSiblings (p : Place) : List String :=
  p.above ++ (p.path.take 1).flatMap Step.stray ++ p.key :: p.below

/-- Where no key behind a dash opens a block on the way to a key, its place is seen as it is. -/
theorem seen_eq (p : Place) (h : ∀ s ∈ p.path, s.stray = []) :
    p.seenAncestors = p.ancestors ∧ p.seenSiblings = p.siblings := by
  have hnames : ∀ path : List Step, (∀ s ∈ path, s.stray = []) →
      path.flatMap Step.seen = path.flatMap Step.names := by
    intro path hpath
    induction path with
    | nil => rfl
    | cons s path ih =>
      rw [List.forall_mem_cons] at hpath
      rw [List.flatMap_cons, List.flatMap_cons, Step.seen_eq_names hpath.1, ih hpath.2]
  have hstray : (p.path.take 1).flatMap Step.stray = [] :=
    List.flatMap_eq_nil_iff.mpr fun s hs => h s (List.mem_of_mem_take hs)
  refine ⟨hnames p.path h, ?_⟩
  rw [seenSiblings, hstray, List.append_nil, siblings]

end Place

/-- A line of a document, with the place of the key that it carries. -/
structure Row where
  line : Line
  place? : Option Place

/-- The text of the row as a cursor sees it. -/
def Row.seen (r : Row) : List Char := r.line.seen

mutual

/-- The lines of a block at a column. The path leads to the block. -/
def Block.rows (indent : Nat) (path : List Step) : Block → List Row
  | .mapping fields => fieldRows indent path [] fields
  | .sequence entries => entryRows indent path entries

/-- The lines of fields behind other keys of their mapping, those nearest first. -/
def fieldRows (indent : Nat) (path : List Step) (above : List String) : List Field → List Row
  | [] => []
  | f :: rest =>
    ⟨fieldLine indent f.key f.tail, some ⟨path, above, f.name, rest.map Field.name⟩⟩ ::
      f.inner indent (.field f.name :: path) ++ fieldRows indent path (f.name :: above) rest

/-- The lines of the block that a key in a column opens. The path leads to the block. -/
def Field.inner (column : Nat) (path : List Step) : Field → List Row
  | .inline _ _ => []
  | .nested _ _ deeper block => block.rows (column + deeper) path

/-- The lines of entries. -/
def entryRows (indent : Nat) (path : List Step) : List Entry → List Row
  | [] => []
  | e :: rest => e.rows indent path ++ entryRows indent path rest

/-- The lines of an entry. -/
def Entry.rows (indent : Nat) (path : List Step) : Entry → List Row
  | .scalar gap text => [⟨scalarLine indent gap text, none⟩]
  | .mapping gap first rest =>
    ⟨entryLine indent gap first.key first.tail,
        some ⟨.entry :: path, [], first.name, rest.map Field.name⟩⟩ ::
      first.inner (indent + 1 + gap) (.entryField first.name :: path) ++
        fieldRows (indent + 1 + gap) (.entry :: path) [first.name] rest

end

/-! ## Pages -/

/-- `Padded rows padded`: blank lines and comments are inserted between the rows. -/
inductive Padded : List Row → List Row → Prop where
  | nil : Padded [] []
  | filler {line : Line} {rows padded : List Row} (h : line.IsFiller) (rest : Padded rows padded) :
      Padded rows (⟨line, none⟩ :: padded)
  | row (r : Row) {rows padded : List Row} (rest : Padded rows padded) :
      Padded (r :: rows) (r :: padded)

/-- A text with a document in block style. -/
structure Page where
  /-- The lines of earlier documents with the marker that ends them. -/
  before : List Line
  /-- The column of the document's root. -/
  indent : Nat
  root : Block
  /-- The lines of the document. -/
  rows : List Row
  /-- The marker behind the document with the lines of later documents. -/
  after : List Line
  padded : Padded (root.rows indent []) rows
  isMarker_before : ∀ l ∈ before.getLast?, l.IsMarker
  isMarker_after : ∀ l ∈ after.head?, l.IsMarker

namespace Page

/-- All lines of the page. -/
def lines (p : Page) : List Line := p.before ++ p.rows.map Row.line ++ p.after

/-- The page as a text. -/
def text (p : Page) : String :=
  String.ofList (List.intercalate ['\n'] (p.lines.map Line.chars))

end Page

/-! ## How the lines of a tree are cut -/

/-- A key starts with a character that is neither blank nor a dash nor opens a comment. -/
theorem Key.exists_cons (k : Key) :
    ∃ c cs, k.chars = c :: cs ∧ isBlank c = false ∧ c ≠ '-' ∧ c ≠ '#' := by
  obtain ⟨c, cs, h⟩ := List.exists_cons_of_ne_nil k.ne_nil
  have hhead : k.chars.head? = some c := by rw [h]; rfl
  refine ⟨c, cs, h, k.head_not_blank c hhead, ?_, ?_⟩
  · rintro rfl
    exact k.head_ne_dash hhead
  · rintro rfl
    exact k.head_ne_hash hhead

private theorem blank_of_mem_replicate {n : Nat} : ∀ c ∈ List.replicate n ' ', isBlank c := by
  intro c hc
  rw [List.eq_of_mem_replicate hc]
  decide

/-- A carriage return at the end of a `fieldLine` is one behind the colon. -/
private theorem seen_fieldLine (indent : Nat) (key : Key) (tail : Line) :
    (fieldLine indent key tail).seen =
      List.replicate indent ' ' ++ (key.chars ++ ':' :: tail.seen) := by
  have h := dropReturn_append_cons (c := ':') (by decide)
    (List.replicate indent ' ' ++ key.chars) tail.chars
  simpa [Line.seen, fieldLine] using h

/-- The same for an `entryLine`. -/
private theorem seen_entryLine (indent gap : Nat) (key : Key) (value : Line) :
    (entryLine indent gap key value).seen = List.replicate indent ' ' ++
      '-' :: (List.replicate gap ' ' ++ (key.chars ++ ':' :: value.seen)) := by
  have h := dropReturn_append_cons (c := ':') (by decide)
    (List.replicate indent ' ' ++ '-' :: (List.replicate gap ' ' ++ key.chars)) value.chars
  simpa [Line.seen, entryLine] using h

/-- The same for a `scalarLine`, behind the gap. -/
private theorem seen_scalarLine (indent : Nat) (gap : ℕ+) (text : Line) :
    (scalarLine indent gap text).seen =
      List.replicate indent ' ' ++ '-' :: (List.replicate gap ' ' ++ text.seen) := by
  obtain ⟨g, hg⟩ := Nat.exists_eq_succ_of_ne_zero gap.ne_zero
  -- the last blank of the gap is what a carriage return cannot reach over
  have hgap : List.replicate gap ' ' = List.replicate g ' ' ++ [' '] := by
    rw [hg, Nat.succ_eq_add_one, List.replicate_succ']
  have h := dropReturn_append_cons (c := ' ') (by decide)
    (List.replicate indent ' ' ++ '-' :: List.replicate g ' ') text.chars
  simpa [Line.seen, scalarLine, hgap] using h

/-- `LineShape.of` cuts a line with a key into its indentation, its key and what follows from the
colon on. -/
theorem LineShape.of_lead_append_key {lead : List Char} (hlead : ∀ c ∈ lead, isBlank c) (key : Key)
    (tail : List Char) :
    of (lead ++ (key.chars ++ ':' :: tail)) = ⟨lead, none, key.chars, ':' :: tail⟩ := by
  obtain ⟨c, cs, hchars, hblank, hdash, -⟩ := key.exists_cons
  rw [hchars, List.cons_append, of_lead_append hlead hblank hdash, ← List.cons_append, ← hchars,
    ofBody_append_colon _ _ key.noColon]

private theorem shape_fieldLine (indent : Nat) (key : Key) (tail : Line) :
    LineShape.of (fieldLine indent key tail).seen =
      ⟨List.replicate indent ' ', none, key.chars, ':' :: tail.seen⟩ := by
  rw [seen_fieldLine, LineShape.of_lead_append_key blank_of_mem_replicate]

/-- `LineShape.of` cuts an `entryLine` behind the dash and its blanks. -/
private theorem shape_entryLine (indent gap : Nat) (key : Key) (value : Line) :
    LineShape.of (entryLine indent gap key value).seen =
      ⟨List.replicate indent ' ', some (List.replicate gap ' '), key.chars, ':' :: value.seen⟩ := by
  obtain ⟨c, cs, hchars, hblank, -, -⟩ := key.exists_cons
  have hgap : ∀ c ∈ List.replicate gap ' ', isBlank c := blank_of_mem_replicate
  rw [seen_entryLine, LineShape.of_lead_append_dash blank_of_mem_replicate,
    List.takeWhile_append_of_pos hgap, List.dropWhile_append_of_pos hgap, hchars,
    List.cons_append, List.takeWhile_cons_of_neg (by simp [hblank]),
    List.dropWhile_cons_of_neg (by simp [hblank]), List.append_nil, ← List.cons_append, ← hchars,
    LineShape.ofBody_append_colon _ _ key.noColon]

/-- A `fieldLine` is indented as far as it says. -/
@[simp] theorem indentCount_fieldLine (indent : Nat) (key : Key) (tail : Line) :
    indentCount (fieldLine indent key tail).seen = indent := by
  rw [indentCount, shape_fieldLine, List.length_replicate]

@[simp] theorem indentCount_entryLine (indent gap : Nat) (key : Key) (value : Line) :
    indentCount (entryLine indent gap key value).seen = indent := by
  rw [indentCount, shape_entryLine, List.length_replicate]

/-- So is a `scalarLine`. -/
@[simp] theorem indentCount_scalarLine (indent : Nat) (gap : ℕ+) (text : Line) :
    indentCount (scalarLine indent gap text).seen = indent := by
  rw [indentCount, seen_scalarLine, LineShape.of_lead_append_dash blank_of_mem_replicate,
    LineShape.ofBody, List.length_replicate]

/-- The only one of the `structuralKeys` of a field's line is its key. -/
@[simp] theorem structuralKeys_fieldLine (indent : Nat) (key : Key) (tail : Line) :
    structuralKeys (fieldLine indent key tail).seen = [key.name] := by
  have htrim : trimEnd key.chars = key.chars := trimEnd_eq_self key.last_not_blank
  simp [structuralKeys, shape_fieldLine, key.ne_nil, htrim, Key.name]

/-- The `structuralKeys` of an entry's line are the key that stands for the entry, and its own
key. -/
@[simp] theorem structuralKeys_entryLine (indent gap : Nat) (key : Key) (value : Line) :
    structuralKeys (entryLine indent gap key value).seen = [itemsKey, key.name] := by
  have htrim : trimEnd key.chars = key.chars := trimEnd_eq_self key.last_not_blank
  simp [structuralKeys, shape_entryLine, key.ne_nil, htrim, Key.name]

@[simp] theorem entryColumn?_fieldLine (indent : Nat) (key : Key) (tail : Line) :
    entryColumn? (fieldLine indent key tail).seen = none := by
  rw [entryColumn?, shape_fieldLine, Option.map_none]

/-- The keys of an entry are in the column of its first key. -/
@[simp] theorem entryColumn?_entryLine (indent gap : Nat) (key : Key) (value : Line) :
    entryColumn? (entryLine indent gap key value).seen = some (indent + 1 + gap) := by
  rw [entryColumn?, shape_entryLine, Option.map_some, List.length_replicate,
    List.length_replicate]

@[simp] theorem ownKey_fieldLine (indent : Nat) (key : Key) (tail : Line) :
    ownKey (fieldLine indent key tail).seen = [key.name] := by
  simp [ownKey, hasFinishedKey, shape_fieldLine, key.ne_nil]

@[simp] theorem ownKey_entryLine (indent gap : Nat) (key : Key) (value : Line) :
    ownKey (entryLine indent gap key value).seen = [key.name] := by
  simp [ownKey, hasFinishedKey, shape_entryLine, key.ne_nil]

/-! ## Lines of a tree carry structure -/

/-- A line that counts, is no marker, and is indented by at least `indent`. -/
structure Structured (indent : Nat) (line : List Char) : Prop where
  le_indent : indent ≤ indentCount line
  relevant : isRelevant line = true
  not_boundary : isBoundary line = false

private theorem Structured.mono {m n : Nat} {line : List Char} (h : Structured n line)
    (hmn : m ≤ n) :
    Structured m line :=
  ⟨Nat.le_trans hmn h.le_indent, h.relevant, h.not_boundary⟩

/-- The end marker is not hidden in a key and its colon. -/
private theorem not_documentEnd_isPrefix (key : Key) (tail : List Char) :
    ¬documentEnd.toList <+: key.chars ++ ':' :: tail := by
  intro h
  have hcolon : key.chars ++ [':'] <+: key.chars ++ ':' :: tail := ⟨tail, by simp⟩
  rcases List.prefix_or_prefix_of_prefix h hcolon with hle | hle
  · -- either all of the marker stands in front of the colon, or it ends with the colon
    rcases List.prefix_concat_iff.mp hle with heq | hpre
    · have hmem : ':' ∈ documentEnd.toList := by rw [heq]; simp
      exact absurd hmem (by decide)
    · exact key.not_documentEnd hpre
  · have hmem : ':' ∈ documentEnd.toList := hle.subset (by simp)
    exact absurd hmem (by decide)

/-- A line with a key is no marker. -/
theorem isBoundary_lead_append_key {lead : List Char} (hlead : ∀ c ∈ lead, isBlank c) (key : Key)
    (tail : List Char) : isBoundary (lead ++ (key.chars ++ ':' :: tail)) = false := by
  obtain ⟨c, cs, hchars, hblank, hdash, -⟩ := key.exists_cons
  rw [← Bool.not_eq_true, hchars, List.cons_append, isBoundary_iff_of_lead_append hlead hblank]
  -- the first character of the key is no dash, and the key with its colon holds no end marker
  rintro (hstart | hend)
  · have hcons : '-' :: ['-', '-'] <+: c :: (cs ++ ':' :: tail) := hstart
    exact hdash (List.cons_prefix_cons.mp hcons).1.symm
  · rw [← List.cons_append, ← hchars] at hend
    exact not_documentEnd_isPrefix key tail hend

/-- A `fieldLine` counts. -/
private theorem structured_fieldLine (indent : Nat) (key : Key) (tail : Line) :
    Structured indent (fieldLine indent key tail).seen := by
  obtain ⟨c, cs, hchars, hblank, -, hhash⟩ := key.exists_cons
  refine ⟨Nat.le_of_eq (indentCount_fieldLine indent key tail).symm, ?_, ?_⟩
  · rw [seen_fieldLine, hchars, List.cons_append,
      isRelevant_lead_append blank_of_mem_replicate hblank, bne_iff_ne]
    exact hhash
  · rw [seen_fieldLine]
    exact isBoundary_lead_append_key blank_of_mem_replicate key tail.seen

/-- Behind a dash and a space stands no marker. -/
theorem isBoundary_lead_append_dash {lead : List Char} (hlead : ∀ c ∈ lead, isBlank c)
    (body : List Char) : isBoundary (lead ++ '-' :: ' ' :: body) = false := by
  rw [← Bool.not_eq_true, isBoundary_iff_of_lead_append hlead (by decide)]
  rintro (hstart | hend)
  · have hcons : '-' :: '-' :: ['-'] <+: '-' :: ' ' :: body := hstart
    have hsecond := (List.cons_prefix_cons.mp (List.cons_prefix_cons.mp hcons).2).1
    exact absurd hsecond (by decide)
  · have hcons : '.' :: ['.', '.'] <+: '-' :: ' ' :: body := hend
    exact absurd (List.cons_prefix_cons.mp hcons).1 (by decide)

/-- A line with a dash counts, and is no marker. -/
private theorem structured_dash (indent : Nat) (gap : ℕ+) (body line : List Char)
    (hline : line = List.replicate indent ' ' ++ '-' :: (List.replicate gap ' ' ++ body)) :
    isRelevant line = true ∧ isBoundary line = false := by
  subst hline
  constructor
  · rw [isRelevant_lead_append blank_of_mem_replicate (by decide)]
    decide
  · obtain ⟨g, hg⟩ := Nat.exists_eq_succ_of_ne_zero gap.ne_zero
    rw [hg, List.replicate_succ, List.cons_append]
    exact isBoundary_lead_append_dash blank_of_mem_replicate _

/-- An `entryLine` counts. -/
private theorem structured_entryLine (indent : Nat) (gap : ℕ+) (key : Key) (value : Line) :
    Structured indent (entryLine indent gap key value).seen := by
  have h := structured_dash indent gap _ _ (seen_entryLine indent gap key value)
  exact ⟨Nat.le_of_eq (indentCount_entryLine indent gap key value).symm, h.1, h.2⟩

/-- A `scalarLine` counts. -/
private theorem structured_scalarLine (indent : Nat) (gap : ℕ+) (text : Line) :
    Structured indent (scalarLine indent gap text).seen := by
  have h := structured_dash indent gap _ _ (seen_scalarLine indent gap text)
  exact ⟨Nat.le_of_eq (indentCount_scalarLine indent gap text).symm, h.1, h.2⟩

mutual

/-- Every line of `Block.rows` is structured and not indented less than the block. -/
theorem Block.structured_of_mem_rows (indent : Nat) (path : List Step) :
    (b : Block) → ∀ r ∈ b.rows indent path, Structured indent r.seen
  | .mapping fields => by
    intro r hr
    rw [Block.rows] at hr
    exact structured_of_mem_fieldRows indent path [] fields r hr
  | .sequence entries => by
    intro r hr
    rw [Block.rows] at hr
    exact structured_of_mem_entryRows indent path entries r hr

/-- `Block.structured_of_mem_rows` for the fields of a mapping. -/
private theorem structured_of_mem_fieldRows (indent : Nat) (path : List Step)
    (above : List String) :
    (fields : List Field) → ∀ r ∈ fieldRows indent path above fields, Structured indent r.seen
  | [] => by
    intro r hr
    rw [fieldRows] at hr
    exact absurd hr List.not_mem_nil
  | f :: rest => by
    intro r hr
    rw [fieldRows, List.cons_append, List.mem_cons, List.mem_append] at hr
    -- the line of the key, the block that it opens, or a later field
    rcases hr with rfl | hr | hr
    · exact structured_fieldLine indent f.key f.tail
    · exact (f.structured_of_mem_inner indent _ r hr).mono (Nat.le_succ indent)
    · exact structured_of_mem_fieldRows indent path _ rest r hr

/-- The block that a key opens is indented deeper than the key. -/
theorem Field.structured_of_mem_inner (column : Nat) (path : List Step) :
    (f : Field) → ∀ r ∈ f.inner column path, Structured (column + 1) r.seen
  | .inline _ _ => by
    intro r hr
    rw [Field.inner] at hr
    exact absurd hr List.not_mem_nil
  | .nested _ _ deeper block => by
    intro r hr
    rw [Field.inner] at hr
    have hpos := deeper.pos
    exact (block.structured_of_mem_rows _ path r hr).mono (by omega)

/-- `Block.structured_of_mem_rows` for the entries of a sequence. -/
private theorem structured_of_mem_entryRows (indent : Nat) (path : List Step) :
    (entries : List Entry) → ∀ r ∈ entryRows indent path entries, Structured indent r.seen
  | [] => by
    intro r hr
    rw [entryRows] at hr
    exact absurd hr List.not_mem_nil
  | e :: rest => by
    intro r hr
    rw [entryRows, List.mem_append] at hr
    rcases hr with hr | hr
    · exact e.structured_of_mem_rows indent path r hr
    · exact structured_of_mem_entryRows indent path rest r hr

/-- `Block.structured_of_mem_rows` for one entry. -/
theorem Entry.structured_of_mem_rows (indent : Nat) (path : List Step) :
    (e : Entry) → ∀ r ∈ e.rows indent path, Structured indent r.seen
  | .scalar gap text => by
    intro r hr
    rw [Entry.rows, List.mem_singleton] at hr
    subst hr
    exact structured_scalarLine indent gap text
  | .mapping gap first rest => by
    intro r hr
    rw [Entry.rows, List.cons_append, List.mem_cons, List.mem_append] at hr
    -- the line of the dash, the block of its key, or another key of the entry
    rcases hr with rfl | hr | hr
    · exact structured_entryLine indent gap first.key first.tail
    · exact (first.structured_of_mem_inner _ _ r hr).mono (by omega)
    · exact (structured_of_mem_fieldRows _ _ _ rest r hr).mono (by omega)

end

/-! ## Plain blocks -/

/-- On the way to the key of the row, no key behind a dash opens a block. -/
def Row.Plain (r : Row) : Prop := ∀ p ∈ r.place?, ∀ s ∈ p.path, s.stray = []

mutual

/-- The rows of a plain block are plain. What leads to the block has to be plain too. -/
theorem Block.plain_of_mem_rows (indent : Nat) {path : List Step}
    (hpath : ∀ s ∈ path, s.stray = []) :
    (b : Block) → b.plain = true → ∀ r ∈ b.rows indent path, r.Plain
  | .mapping fields => by
    intro h r hr
    rw [Block.plain] at h
    rw [Block.rows] at hr
    exact plain_of_mem_fieldRows indent hpath [] fields h r hr
  | .sequence entries => by
    intro h r hr
    rw [Block.plain] at h
    rw [Block.rows] at hr
    exact plain_of_mem_entryRows indent hpath entries h r hr

/-- `Block.plain_of_mem_rows` for the fields of a mapping. -/
private theorem plain_of_mem_fieldRows (indent : Nat) {path : List Step}
    (hpath : ∀ s ∈ path, s.stray = []) (above : List String) :
    (fields : List Field) → plainFields fields = true →
      ∀ r ∈ fieldRows indent path above fields, r.Plain
  | [] => by
    intro _ r hr
    rw [fieldRows] at hr
    exact absurd hr List.not_mem_nil
  | f :: rest => by
    intro h r hr
    rw [plainFields, Bool.and_eq_true] at h
    rw [fieldRows, List.cons_append, List.mem_cons, List.mem_append] at hr
    rcases hr with rfl | hr | hr
    · rintro p ⟨⟩
      exact hpath
    · exact f.plain_of_mem_inner indent (List.forall_mem_cons.mpr ⟨rfl, hpath⟩) h.1 r hr
    · exact plain_of_mem_fieldRows indent hpath _ rest h.2 r hr

/-- `Block.plain_of_mem_rows` for the block that a key opens. -/
private theorem Field.plain_of_mem_inner (column : Nat) {path : List Step}
    (hpath : ∀ s ∈ path, s.stray = []) :
    (f : Field) → f.plain = true → ∀ r ∈ f.inner column path, r.Plain
  | .inline _ _ => by
    intro _ r hr
    rw [Field.inner] at hr
    exact absurd hr List.not_mem_nil
  | .nested _ _ deeper block => by
    intro h r hr
    rw [Field.plain] at h
    rw [Field.inner] at hr
    exact block.plain_of_mem_rows _ hpath h r hr

/-- `Block.plain_of_mem_rows` for the entries of a sequence. -/
private theorem plain_of_mem_entryRows (indent : Nat) {path : List Step}
    (hpath : ∀ s ∈ path, s.stray = []) :
    (entries : List Entry) → plainEntries entries = true →
      ∀ r ∈ entryRows indent path entries, r.Plain
  | [] => by
    intro _ r hr
    rw [entryRows] at hr
    exact absurd hr List.not_mem_nil
  | e :: rest => by
    intro h r hr
    rw [plainEntries, Bool.and_eq_true] at h
    rw [entryRows, List.mem_append] at hr
    rcases hr with hr | hr
    · exact e.plain_of_mem_rows indent hpath h.1 r hr
    · exact plain_of_mem_entryRows indent hpath rest h.2 r hr

/-- `Block.plain_of_mem_rows` for one entry. The key behind its dash opens no block. -/
private theorem Entry.plain_of_mem_rows (indent : Nat) {path : List Step}
    (hpath : ∀ s ∈ path, s.stray = []) :
    (e : Entry) → e.plain = true → ∀ r ∈ e.rows indent path, r.Plain
  | .scalar gap text => by
    intro _ r hr
    rw [Entry.rows, List.mem_singleton] at hr
    subst hr
    rintro p ⟨⟩
  | .mapping gap (.nested key tail deeper block) rest => by
    -- the key behind the dash would open a block
    intro h
    rw [Entry.plain, Field.isInline] at h
    cases h
  | .mapping gap (.inline key value) rest => by
    intro h r hr
    have hentry : ∀ s ∈ Step.entry :: path, s.stray = [] :=
      List.forall_mem_cons.mpr ⟨rfl, hpath⟩
    rw [Entry.plain, Bool.and_eq_true] at h
    rw [Entry.rows, Field.inner, List.singleton_append, List.mem_cons] at hr
    rcases hr with rfl | hr
    · rintro p ⟨⟩
      exact hentry
    · exact plain_of_mem_fieldRows _ hentry _ rest h.2 r hr

end

end PrimitiveDesk.Layout
