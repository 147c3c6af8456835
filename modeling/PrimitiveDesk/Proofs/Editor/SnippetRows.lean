import PrimitiveDesk.Proofs.Editor.EntryAlignment
import PrimitiveDesk.Proofs.Layout.KeyInsertion

/-!
# The lines of a suggested field

The snippet of a field is a row with its name, followed by rows for the required fields below it
(`Completion.toList_fieldSnippet`). A snippet escapes the names, and `Completion.expand` gives back
what the rows mean. If an editor puts the text in place of a blank line, with all rows behind the
blanks of that line, the first row has the name as its key, and the other rows are deeper
(`Completion.exists_lines_indented`).

All of this needs names that can be read as keys, at every depth (`SchemaNode.NamedByKeys`).
-/

namespace PrimitiveDesk

open Layout Text

/-! ## Names that are keys -/

namespace SchemaNode

mutual

/-- The names of all fields below the node are keys, at every depth. -/
def NamedByKeys : SchemaNode → Prop
  | scalar _ _ => True
  | sequence _ element => NamedByKeys element
  | object _ fields => FieldsNamedByKeys fields

/-- The names of the fields, and of all fields below them, are keys. -/
def FieldsNamedByKeys : List (String × SchemaNode) → Prop
  | [] => True
  | (name, field) :: rest =>
    (∃ key : Key, key.name = name) ∧ NamedByKeys field ∧ FieldsNamedByKeys rest

end

/-- The names of fields are keys, and so are those below each of them. -/
theorem fieldsNamedByKeys_iff {fields : List (String × SchemaNode)} :
    FieldsNamedByKeys fields ↔
      ∀ f ∈ fields, (∃ key : Key, key.name = f.1) ∧ f.2.NamedByKeys := by
  induction fields with
  | nil => simp [FieldsNamedByKeys]
  | cons f rest ih =>
    obtain ⟨name, field⟩ := f
    rw [FieldsNamedByKeys, ih, List.forall_mem_cons, and_assoc]

end SchemaNode

/-- The names of all fields of the level are keys, at every depth. -/
def Shape.NamedByKeys (s : Shape) : Prop := SchemaNode.FieldsNamedByKeys s

namespace Completion

/-! ## Expanding a snippet -/

/-- The text that a snippet without stops stands for: a special character loses the backslash in
front of it. -/
def expand : List Char → List Char
  | [] => []
  | [c] => [c]
  | c :: d :: rest => if c = '\\' ∧ isSpecial d then d :: expand rest else c :: expand (d :: rest)

/-- A piece of a snippet stands for a text, whatever follows it. -/
def Expands (piece text : List Char) : Prop :=
  ∀ rest, expand (piece ++ rest) = text ++ expand rest

private theorem expand_cons_of_ne {c : Char} (hc : c ≠ '\\') (rest : List Char) :
    expand (c :: rest) = c :: expand rest := by
  cases rest with
  | nil => rfl
  | cons d rest => rw [expand, if_neg fun h => hc h.1]

private theorem Expands.append {xs ys xs' ys' : List Char} (h : Expands xs ys)
    (h' : Expands xs' ys') :
    Expands (xs ++ xs') (ys ++ ys') := by
  intro rest
  rw [List.append_assoc, h, h', List.append_assoc]

/-- Text without backslashes stands for itself. -/
private theorem expands_of_not_mem {cs : List Char} (h : '\\' ∉ cs) : Expands cs cs := by
  intro rest
  induction cs with
  | nil => rfl
  | cons c cs ih =>
    rw [List.mem_cons, not_or] at h
    rw [List.cons_append, expand_cons_of_ne (Ne.symm h.1), ih h.2, List.cons_append]

/-- Text that `escapeChar` has escaped stands for itself. -/
private theorem expands_flatMap_escapeChar (cs : List Char) :
    Expands (cs.flatMap escapeChar) cs := by
  intro rest
  induction cs with
  | nil => rfl
  | cons c cs ih =>
    rw [List.flatMap_cons, List.append_assoc, List.cons_append, ← ih, escapeChar]
    -- an escaped character loses its backslash, any other is no backslash
    split
    · next hc => exact if_pos ⟨rfl, hc⟩
    · next hc =>
      have hslash : c ≠ '\\' := by
        rintro rfl
        exact hc (by decide)
      exact expand_cons_of_ne hslash _

/-! ## Rows -/

/-- A row of a snippet: a name with text around it. -/
structure SnippetRow where
  front : List Char
  name : List Char
  back : List Char

namespace SnippetRow

/-- The row in the snippet. -/
def written (r : SnippetRow) : List Char := r.front ++ (r.name.flatMap escapeChar ++ r.back)

/-- How the parts of a row are written. -/
@[simp] theorem written_mk (front name back : List Char) :
    written ⟨front, name, back⟩ = front ++ (name.flatMap escapeChar ++ back) :=
  rfl

/-- What the row stands for. -/
def meant (r : SnippetRow) : List Char := r.front ++ (r.name ++ r.back)

/-- The row is one line, and nothing around its name has to be escaped. -/
structure IsPlain (r : SnippetRow) : Prop where
  front : '\\' ∉ r.front
  back : '\\' ∉ r.back
  noBreak : '\n' ∉ r.meant

/-- A plain row in the snippet stands for what is meant. -/
private theorem IsPlain.expands {r : SnippetRow} (h : r.IsPlain) : Expands r.written r.meant :=
  (expands_of_not_mem h.front).append
    ((expands_flatMap_escapeChar r.name).append (expands_of_not_mem h.back))

end SnippetRow

/-- `expand` gives back what the rows mean, one by one. -/
private theorem expand_rows {rows : List SnippetRow} (h : ∀ r ∈ rows, r.IsPlain) :
    expand (List.intercalate ['\n'] (rows.map SnippetRow.written)) =
      List.intercalate ['\n'] (rows.map SnippetRow.meant) := by
  have hrow {r : SnippetRow} (hr : r.IsPlain) : expand r.written = r.meant := by
    have hexpand := hr.expands []
    rwa [List.append_nil, expand, List.append_nil] at hexpand
  induction rows with
  | nil => rfl
  | cons r rows ih =>
    rw [List.forall_mem_cons] at h
    cases rows with
    | nil => simpa using hrow h.1
    | cons r' rows =>
      have hfeed : Expands ['\n'] ['\n'] := expands_of_not_mem (by decide)
      rw [List.map_cons, List.map_cons, List.intercalate_cons_cons, List.map_cons, List.map_cons,
        List.intercalate_cons_cons, (h.1.expands.append hfeed) _]
      exact congrArg _ (ih h.2)

/-- A text with each of its lines behind the given blanks. -/
def indented (lead text : List Char) : List Char :=
  List.intercalate ['\n'] ((rawLines text).map (lead ++ ·))

/-- `indented` puts the blanks in front of every row. -/
private theorem indented_rows {rows : List SnippetRow} (hne : rows ≠ []) (h : ∀ r ∈ rows, r.IsPlain)
    (lead : List Char) :
    indented lead (List.intercalate ['\n'] (rows.map SnippetRow.meant)) =
      List.intercalate ['\n'] (rows.map fun r => lead ++ r.meant) := by
  have hbreak : ∀ l ∈ rows.map SnippetRow.meant, '\n' ∉ l := by
    intro l hl
    obtain ⟨r, hr, rfl⟩ := List.mem_map.mp hl
    exact (h r hr).noBreak
  rw [indented, rawLines_intercalate (by simpa using hne) hbreak, List.map_map]
  rfl

/-! ## The rows of a field -/

/-- The row of a required field. -/
def lineRow (front : List Char) (f : String × SchemaNode) : SnippetRow :=
  ⟨front, f.1.toList, ':' :: (placeholder f.2).toList⟩

/-- The row of a required field is its `fieldLine`. -/
private theorem written_lineRow (front : List Char) (f : String × SchemaNode) :
    (lineRow front f).written = front ++ (fieldLine f).toList := by
  rw [toList_fieldLine]
  rfl

/-- What stands behind the colon of a suggested field. -/
def valueText : SchemaNode → List Char
  | .sequence _ (.object _ _) => []
  | .sequence _ _ => [' ', '[', ']']
  | .object _ _ => []
  | .scalar _ _ => [' ']

/-- The rows below the name of a suggested field: the required fields of an object, or of the first
entry of a sequence. -/
def innerRows (unit : List Char) : SchemaNode → List SnippetRow
  | .sequence _ (.object _ shape) =>
    match shape.filter fun f => f.2.isRequired with
    | [] => [⟨unit ++ ['-', ' '], [], []⟩]
    | first :: rest => lineRow (unit ++ ['-', ' ']) first :: rest.map (lineRow (unit ++ unit))
  | .object _ shape =>
    match shape.filter fun f => f.2.isRequired with
    | [] => [⟨[], [], []⟩]
    | first :: rest => (first :: rest).map (lineRow unit)
  | _ => []

/-- All rows of a suggested field. -/
def snippetRows (unit : List Char) (f : String × SchemaNode) : List SnippetRow :=
  ⟨[], f.1.toList, ':' :: valueText f.2⟩ :: innerRows unit f.2

/-- A `fieldSnippet` is made of its rows. -/
theorem toList_fieldSnippet (f : String × SchemaNode) (unit : String) :
    (fieldSnippet f.1 f.2 unit).toList =
      List.intercalate ['\n'] ((snippetRows unit.toList f).map SnippetRow.written) := by
  have hcolon : ":\n".toList = [':', '\n'] := rfl
  have hdash : "- ".toList = ['-', ' '] := rfl
  -- the cases are those of `fieldSnippet`: only objects and sequences of objects have inner rows
  obtain ⟨name, node⟩ := f
  cases node with
  | scalar info type =>
    simp [fieldSnippet, snippetRows, innerRows, valueText, toList_escapeSnippet]
  | object info shape =>
    simp only [fieldSnippet, snippetRows, innerRows, valueText, String.toList_append,
      toList_escapeSnippet, toList_skeleton_true, hcolon]
    cases shape.filter fun f => f.2.isRequired with
    | nil => simp [List.intercalate]
    | cons first rest =>
      simp [List.intercalate_cons_cons, written_lineRow, Function.comp_def]
  | sequence info element =>
    cases element with
    | scalar elementInfo type =>
      simp [fieldSnippet, snippetRows, innerRows, valueText, toList_escapeSnippet]
    | sequence elementInfo element =>
      simp [fieldSnippet, snippetRows, innerRows, valueText, toList_escapeSnippet]
    | object elementInfo shape =>
      simp only [fieldSnippet, snippetRows, innerRows, valueText, String.toList_append,
        toList_escapeSnippet, hcolon, hdash]
      cases hrequired : shape.filter fun f => f.2.isRequired with
      | nil => simp [skeleton, hrequired, List.intercalate]
      | cons first rest =>
        rw [toList_skeleton_false hrequired]
        cases rest with
        | nil => simp [List.intercalate, written_lineRow]
        | cons second rest =>
          simp [List.intercalate_cons_cons, written_lineRow, Function.comp_def]

/-! ## The rows below a name -/

/-- A row below the name of a field: it is plain, and behind any blanks it is passed over in the
column in which these blanks end, whatever blanks follow it. -/
structure SnippetRow.IsBelow (r : SnippetRow) : Prop extends r.IsPlain where
  passed : ∀ lead tail, (∀ c ∈ lead, isBlank c) → (∀ c ∈ tail, isBlank c) →
    IsPassed lead.length (dropReturn (lead ++ (r.meant ++ tail)))

/-- A row with a key is plain if the text around the key is. -/
private theorem isPlain_key {front back : List Char} (hslash : '\\' ∉ front) (hbreak : '\n' ∉ front)
    (key : Key) (hslash' : '\\' ∉ back) (hbreak' : '\n' ∉ back) :
    SnippetRow.IsPlain ⟨front, key.chars, ':' :: back⟩ where
  front := hslash
  back := by simp [hslash']
  noBreak := by simp [SnippetRow.meant, hbreak, key.noBreak, hbreak']

/-- The name of a `lineRow` for a key are the characters of the key. -/
private theorem lineRow_key (front : List Char) (key : Key) (node : SchemaNode) :
    lineRow front (key.name, node) = ⟨front, key.chars, ':' :: (placeholder node).toList⟩ := by
  rw [lineRow, Key.name, String.toList_ofList]

/-- A `lineRow` for a key is plain. -/
private theorem isPlain_lineRow {front : List Char} (hslash : '\\' ∉ front) (hbreak : '\n' ∉ front)
    (key : Key) (node : SchemaNode) : (lineRow front (key.name, node)).IsPlain := by
  have hvalue : '\\' ∉ (placeholder node).toList := by
    unfold placeholder
    split <;> decide
  rw [lineRow_key]
  exact isPlain_key hslash hbreak key hvalue (not_mem_placeholder node)

section Spaces

variable {spaces : List Char}

private theorem isBlank_of_mem_append {lead : List Char} (hlead : ∀ c ∈ lead, isBlank c)
    (h : ∀ c ∈ spaces, c = ' ') : ∀ c ∈ lead ++ spaces, isBlank c := by
  rw [List.forall_mem_append]
  refine ⟨hlead, fun c hc => ?_⟩
  rw [h c hc]
  decide

private theorem length_lt_append (hne : spaces ≠ []) (lead : List Char) :
    lead.length < (lead ++ spaces).length := by
  have := List.length_pos_iff.mpr hne
  rw [List.length_append]
  omega

private theorem not_mem_spaces {c : Char} (h : ∀ c ∈ spaces, c = ' ') (hc : c ≠ ' ') : c ∉ spaces :=
  fun hmem => hc (h c hmem)

variable (h : ∀ c ∈ spaces, c = ' ') (hne : spaces ≠ [])
include h hne

/-- A required field on a line of its own. -/
private theorem isBelow_lineRow (key : Key) (node : SchemaNode) :
    (lineRow spaces (key.name, node)).IsBelow where
  toIsPlain :=
    isPlain_lineRow (not_mem_spaces h (by decide)) (not_mem_spaces h (by decide)) key node
  passed := by
    intro lead tail hlead _
    have hline : dropReturn (lead ++ ((lineRow spaces (key.name, node)).meant ++ tail)) =
        (lead ++ spaces) ++
          (key.chars ++ ':' :: dropReturn ((placeholder node).toList ++ tail)) := by
      have hcolon : lead ++ ((lineRow spaces (key.name, node)).meant ++ tail) =
          (lead ++ spaces ++ key.chars) ++ ':' :: ((placeholder node).toList ++ tail) := by
        simp [lineRow_key, SnippetRow.meant]
      rw [hcolon, dropReturn_append_cons (by decide), List.append_assoc]
    rw [hline]
    exact isPassed_of_key (isBlank_of_mem_append hlead h) (length_lt_append hne lead) key _

/-- The first row of a sequence, whatever stands behind its dash. -/
private theorem isBelow_of_dash {name back : List Char}
    (hplain : SnippetRow.IsPlain ⟨spaces ++ ['-', ' '], name, back⟩) :
    SnippetRow.IsBelow ⟨spaces ++ ['-', ' '], name, back⟩ where
  toIsPlain := hplain
  passed := by
    intro lead tail hlead _
    have hline : dropReturn
          (lead ++ (SnippetRow.meant ⟨spaces ++ ['-', ' '], name, back⟩ ++ tail)) =
        (lead ++ spaces) ++ '-' :: ' ' :: dropReturn (name ++ (back ++ tail)) := by
      have hdash : lead ++ (SnippetRow.meant ⟨spaces ++ ['-', ' '], name, back⟩ ++ tail) =
          (lead ++ spaces ++ ['-']) ++ ' ' :: (name ++ (back ++ tail)) := by
        simp [SnippetRow.meant]
      rw [hdash, dropReturn_append_cons (by decide), List.append_assoc, List.singleton_append]
    rw [hline]
    exact isPassed_of_dash (isBlank_of_mem_append hlead h) (length_lt_append hne lead) _

end Spaces

/-- The empty row of an object without required fields. -/
private theorem isBelow_empty : SnippetRow.IsBelow ⟨[], [], []⟩ where
  front := List.not_mem_nil
  back := List.not_mem_nil
  noBreak := List.not_mem_nil
  passed := by
    intro lead tail hlead htail
    refine isPassed_of_blank _ fun c hc => ?_
    have hmem : c ∈ lead ++ tail := mem_of_mem_dropReturn hc
    rcases List.mem_append.mp hmem with hc | hc
    · exact hlead c hc
    · exact htail c hc

/-- All `innerRows` stand below the name of the field. -/
theorem isBelow_of_mem_innerRows {unit : List Char} (h : ∀ c ∈ unit, c = ' ') (hne : unit ≠ [])
    {node : SchemaNode} (hnode : node.NamedByKeys) {r : SnippetRow} (hr : r ∈ innerRows unit node) :
    r.IsBelow := by
  have hrequired {shape : Shape} (hshape : shape.NamedByKeys) {f : String × SchemaNode}
      (hf : f ∈ shape.filter fun f => f.2.isRequired) : ∃ key : Key, f = (key.name, f.2) := by
    obtain ⟨key, hkey⟩ :=
      (SchemaNode.fieldsNamedByKeys_iff.mp hshape f (List.mem_filter.mp hf).1).1
    exact ⟨key, Prod.ext hkey.symm rfl⟩
  have hdash {c : Char} (hspace : c ≠ ' ') (hdash : c ≠ '-') : c ∉ unit ++ ['-', ' '] := by
    have := not_mem_spaces h hspace
    simp [this, hspace, hdash]
  -- a required field has a key, so that each kind of row falls under a lemma from above
  unfold innerRows at hr
  split at hr
  · next info elementInfo shape =>
    rw [SchemaNode.NamedByKeys, SchemaNode.NamedByKeys] at hnode
    cases hfields : shape.filter fun f => f.2.isRequired with
    | nil =>
      rw [hfields, List.mem_singleton] at hr
      subst hr
      exact isBelow_of_dash h hne ⟨hdash (by decide) (by decide), List.not_mem_nil,
        by simpa [SnippetRow.meant] using not_mem_spaces h (by decide)⟩
    | cons first rest =>
      rw [hfields, List.mem_cons] at hr
      rcases hr with rfl | hr
      · obtain ⟨key, hkey⟩ := hrequired hnode (hfields ▸ List.mem_cons_self)
        rw [hkey]
        exact isBelow_of_dash h hne
          (isPlain_lineRow (hdash (by decide) (by decide)) (hdash (by decide) (by decide)) key _)
      · obtain ⟨f, hf, rfl⟩ := List.mem_map.mp hr
        obtain ⟨key, hkey⟩ := hrequired hnode (hfields ▸ List.mem_cons_of_mem _ hf)
        rw [hkey]
        refine isBelow_lineRow (List.forall_mem_append.mpr ⟨h, h⟩) ?_ key _
        exact List.append_ne_nil_of_left_ne_nil hne _
  · next info shape =>
    rw [SchemaNode.NamedByKeys] at hnode
    cases hfields : shape.filter fun f => f.2.isRequired with
    | nil =>
      rw [hfields, List.mem_singleton] at hr
      rw [hr]
      exact isBelow_empty
    | cons first rest =>
      rw [hfields] at hr
      obtain ⟨f, hf, rfl⟩ := List.mem_map.mp hr
      obtain ⟨key, hkey⟩ := hrequired hnode (hfields ▸ hf)
      rw [hkey]
      exact isBelow_lineRow h hne key _
  · exact absurd hr List.not_mem_nil

private theorem snippetRows_key (unit : List Char) (key : Key) (node : SchemaNode) :
    snippetRows unit (key.name, node) =
      ⟨[], key.chars, ':' :: valueText node⟩ :: innerRows unit node := by
  rw [snippetRows, Key.name, String.toList_ofList]

/-- All `snippetRows` are plain. -/
private theorem isPlain_of_mem_snippetRows {unit : List Char} (h : ∀ c ∈ unit, c = ' ')
    (hne : unit ≠ []) (key : Key) {node : SchemaNode} (hnode : node.NamedByKeys) {r : SnippetRow}
    (hr : r ∈ snippetRows unit (key.name, node)) : r.IsPlain := by
  have hvalue : '\\' ∉ valueText node ∧ '\n' ∉ valueText node := by
    unfold valueText
    split <;> decide
  rw [snippetRows_key, List.mem_cons] at hr
  rcases hr with rfl | hr
  · exact isPlain_key List.not_mem_nil List.not_mem_nil key hvalue.1 hvalue.2
  · exact (isBelow_of_mem_innerRows h hne hnode hr).toIsPlain

/-! ## The lines of a suggested field -/

/-- Lines with carriage returns behind the last of them. -/
private theorem exists_lines_intercalate_append {l : List Char} {ls : List (List Char)}
    (h : ∀ l' ∈ l :: ls, '\n' ∉ l') {returns : List Char} (hreturns : ∀ c ∈ returns, c = '\r') :
    ∃ tail inner, (∀ c ∈ tail, c = '\r') ∧
      lines (List.intercalate ['\n'] (l :: ls) ++ returns) = dropReturn (l ++ tail) :: inner ∧
      ∀ line ∈ inner, ∃ l' ∈ ls, ∃ tail, (∀ c ∈ tail, c = '\r') ∧
        line = dropReturn (l' ++ tail) := by
  induction ls generalizing l with
  | nil =>
    have hbreak : '\n' ∉ l ++ returns := by
      rw [List.mem_append, not_or]
      refine ⟨h l List.mem_cons_self, fun hmem => ?_⟩
      exact absurd (hreturns _ hmem) (by decide)
    refine ⟨returns, [], hreturns, ?_, List.forall_mem_nil _⟩
    rw [List.intercalate_singleton, lines, rawLines_of_not_mem hbreak]
    rfl
  | cons m ls ih =>
    rw [List.forall_mem_cons] at h
    obtain ⟨tail, inner, htail, hlines, hinner⟩ := ih h.2
    -- only the last line has the carriage returns
    have hjoin : List.intercalate ['\n'] (l :: m :: ls) ++ returns =
        l ++ '\n' :: (List.intercalate ['\n'] (m :: ls) ++ returns) := by
      rw [List.intercalate_cons_cons]
      simp
    have hfirst : lines l = [dropReturn l] := by
      rw [lines, rawLines_of_not_mem h.1]
      rfl
    refine ⟨[], dropReturn (m ++ tail) :: inner, List.forall_mem_nil _, ?_, ?_⟩
    · rw [hjoin, lines_append_newline_append, hfirst, hlines, List.append_nil,
        List.singleton_append]
    · rw [List.forall_mem_cons]
      refine ⟨⟨m, List.mem_cons_self, tail, htail, rfl⟩, fun line hline => ?_⟩
      obtain ⟨l', hl', found⟩ := hinner line hline
      exact ⟨l', List.mem_cons_of_mem _ hl', found⟩

/-- A suggested field in place of a blank line: the first line has its name as key, behind the
blanks of that line, and the other lines are passed over. -/
theorem exists_lines_indented {unit : String} {width : Nat}
    (hunit : unit.toList = List.replicate (width + 1) ' ') (key : Key) {node : SchemaNode}
    (hnode : node.NamedByKeys) {lead : List Char} (hlead : ∀ c ∈ lead, isBlank c)
    (hbreak : '\n' ∉ lead) {returns : List Char} (hreturns : ∀ c ∈ returns, c = '\r') :
    ∃ tail inner,
      lines (indented lead (expand (fieldSnippet key.name node unit).toList) ++ returns) =
        (lead ++ (key.chars ++ ':' :: tail)) :: inner ∧
      ∀ line ∈ inner, IsPassed lead.length line := by
  have hspaces : ∀ c ∈ unit.toList, c = ' ' := by
    intro c hc
    rw [hunit] at hc
    exact List.eq_of_mem_replicate hc
  have hne : unit.toList ≠ [] := by
    rw [hunit]
    exact List.cons_ne_nil _ _
  have hplain := fun r => isPlain_of_mem_snippetRows hspaces hne key hnode (r := r)
  -- the snippet is expanded and indented row by row
  have htext : indented lead (expand (fieldSnippet key.name node unit).toList) =
      List.intercalate ['\n']
        ((snippetRows unit.toList (key.name, node)).map fun r => lead ++ r.meant) := by
    rw [toList_fieldSnippet (key.name, node), expand_rows hplain]
    exact indented_rows (List.cons_ne_nil _ _) hplain lead
  have hbreaks : ∀ l ∈ (snippetRows unit.toList (key.name, node)).map fun r => lead ++ r.meant,
      '\n' ∉ l := by
    intro l hl
    obtain ⟨r, hr, rfl⟩ := List.mem_map.mp hl
    rw [List.mem_append, not_or]
    exact ⟨hbreak, (hplain r hr).noBreak⟩
  rw [snippetRows_key, List.map_cons] at htext hbreaks
  -- joining the rows adds nothing but the carriage returns of the old line
  obtain ⟨tail, inner, -, hlines, hinner⟩ := exists_lines_intercalate_append hbreaks hreturns
  refine ⟨dropReturn (valueText node ++ tail), inner, ?_, ?_⟩
  · have hfirst : lead ++ SnippetRow.meant ⟨[], key.chars, ':' :: valueText node⟩ ++ tail =
        lead ++ key.chars ++ ':' :: (valueText node ++ tail) := by
      simp [SnippetRow.meant]
    rw [htext, hlines, hfirst, dropReturn_append_cons (by decide), List.append_assoc]
  · intro line hline
    obtain ⟨l, hl, tail, htail, rfl⟩ := hinner line hline
    obtain ⟨r, hr, rfl⟩ := List.mem_map.mp hl
    rw [List.append_assoc]
    refine (isBelow_of_mem_innerRows hspaces hne hnode hr).passed lead tail hlead fun c hc => ?_
    rw [htail c hc]
    decide

end Completion

end PrimitiveDesk
