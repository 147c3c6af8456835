import PrimitiveDesk.Proofs.Editor.NewDocument
import PrimitiveDesk.Server.Settings

/-!
# The lines of a suggested sequence entry

Two suggestions open a sequence entry: a new element of a sequence of objects, and a field that
holds such a sequence. Both write the first required field behind a dash and a space, and each other
required field on a line of its own. The dash and its space always take two columns, but the lines
below are indented by one unit more than the dash. So the lines are one mapping exactly if a unit is
two spaces wide, up to blanks at the front of the names (`Completion.entry_aligned_iff`).
-/

namespace PrimitiveDesk

open Layout Text

namespace Layout

/-! ## Columns -/

private theorem indentCount_eq_takeWhile (line : List Char) :
    indentCount line = (line.takeWhile isBlank).length := by
  unfold indentCount LineShape.of
  split <;> rfl

/-- `indentCount` counts spaces that are put in front of a line. -/
theorem indentCount_spaces (n : Nat) (line : List Char) :
    indentCount (List.replicate n ' ' ++ line) = n + indentCount line := by
  have hspaces : ∀ c ∈ List.replicate n ' ', isBlank c = true := by
    intro c hc
    rw [List.eq_of_mem_replicate hc]
    decide
  rw [indentCount_eq_takeWhile, indentCount_eq_takeWhile, List.takeWhile_append_of_pos hspaces,
    List.length_append, List.length_replicate]

/-- `entryColumn?` gives the column behind a dash and a space, or a later one if blanks follow. -/
theorem entryColumn?_dash (n : Nat) (line : List Char) :
    entryColumn? (List.replicate n ' ' ++ '-' :: ' ' :: line) =
      some (n + 2 + indentCount line) := by
  have hspaces : ∀ c ∈ List.replicate n ' ', isBlank c = true := by
    intro c hc
    rw [List.eq_of_mem_replicate hc]
    decide
  have hspace : isBlank ' ' = true := by decide
  unfold entryColumn?
  rw [LineShape.of_lead_append_dash hspaces, indentCount_eq_takeWhile]
  simp only [LineShape.ofBody, List.takeWhile_cons_of_pos hspace, Option.map_some,
    List.length_replicate, List.length_cons, Option.some_inj]
  omega

/-- The lines below the line of a dash start where the mapping of its entry starts. -/
def Aligned (dash : List Char) (below : List (List Char)) : Prop :=
  ∀ line ∈ below, entryColumn? dash = some (indentCount line)

end Layout

namespace Completion

/-! ## The text of an entry -/

/-- `fieldLine` keeps the blanks at the front of a name. -/
private theorem indentCount_fieldLine_eq (f : String × SchemaNode) :
    indentCount (fieldLine f).toList = indentCount f.1.toList := by
  rw [toList_fieldLine, indentCount_eq_takeWhile, indentCount_eq_takeWhile]
  induction f.1.toList with
  | nil => rfl
  | cons c cs ih =>
    cases hc : isBlank c with
    | true =>
      rw [List.flatMap_cons, escapeChar_of_isBlank hc, List.singleton_append, List.cons_append,
        List.takeWhile_cons_of_pos hc, List.takeWhile_cons_of_pos hc, List.length_cons, ih,
        List.length_cons]
    | false =>
      have hslash : isBlank '\\' = false := by decide
      -- an escape starts with a backslash, which is no blank
      rw [List.flatMap_cons, escapeChar, List.takeWhile_cons_of_neg (by simp [hc])]
      split <;> simp [hslash, hc]

/-- `fieldLine` of a name without a line feed is one line, and loses nothing at its end. -/
private theorem fieldLine_spec {f : String × SchemaNode} (hf : '\n' ∉ f.1.toList)
    (lead : List Char) :
    ('\n' ∉ lead → '\n' ∉ lead ++ (fieldLine f).toList) ∧
      dropReturn (lead ++ (fieldLine f).toList) = lead ++ (fieldLine f).toList := by
  rw [toList_fieldLine]
  constructor
  · intro hlead
    have hname := not_mem_flatMap_escapeChar hf
    have hvalue := not_mem_placeholder f.2
    simp [hlead, hname, hvalue]
  · have hvalue : dropReturn (placeholder f.2).toList = (placeholder f.2).toList := by
      unfold placeholder
      split <;> decide
    rw [← List.append_assoc, dropReturn_append_cons (by decide), hvalue]

/-- `skeleton` behind a dash: the first field there, the others below it. -/
theorem toList_skeleton_false {shape rest : Shape} {first : String × SchemaNode}
    (h : (shape.filter fun f => f.2.isRequired) = first :: rest) (indent : String) :
    (skeleton shape indent false).toList =
      List.intercalate ['\n'] ((fieldLine first).toList ::
        rest.map fun f => indent.toList ++ (fieldLine f).toList) := by
  unfold skeleton
  rw [h]
  simp only [List.map_cons, Bool.false_eq_true, if_false]
  rw [String.toList_intercalate, List.map_cons, List.map_map, List.map_map]
  simp only [Function.comp_def, String.toList_append]
  rfl

/-- The lines of an entry, behind `lead` and with its other fields indented by `indent`. -/
theorem lines_entry {shape rest : Shape} {first : String × SchemaNode}
    (h : (shape.filter fun f => f.2.isRequired) = first :: rest)
    (hnames : ∀ f ∈ first :: rest, '\n' ∉ f.1.toList) {lead : List Char} (hlead : '\n' ∉ lead)
    {indent : String} (hindent : '\n' ∉ indent.toList) :
    lines (lead ++ (skeleton shape indent false).toList) =
      (lead ++ (fieldLine first).toList) ::
        rest.map fun f => indent.toList ++ (fieldLine f).toList := by
  -- what stands in front of the text is in front of its first line
  have hjoin : lead ++ (skeleton shape indent false).toList =
      List.intercalate ['\n'] ((lead ++ (fieldLine first).toList) ::
        rest.map fun f => indent.toList ++ (fieldLine f).toList) := by
    rw [toList_skeleton_false h]
    cases rest with
    | nil => simp [List.intercalate]
    | cons f rest =>
      rw [List.map_cons, List.intercalate_cons_cons, List.intercalate_cons_cons]
      simp
  rw [List.forall_mem_cons] at hnames
  rw [hjoin, lines_intercalate (List.cons_ne_nil _ _), List.map_cons,
    (fieldLine_spec hnames.1 lead).2, List.map_map]
  · congr 1
    refine List.map_congr_left fun f hf => ?_
    exact (fieldLine_spec (hnames.2 f hf) indent.toList).2
  · rw [List.forall_mem_cons]
    refine ⟨(fieldLine_spec hnames.1 lead).1 hlead, fun line hline => ?_⟩
    obtain ⟨f, hf, rfl⟩ := List.mem_map.mp hline
    exact (fieldLine_spec (hnames.2 f hf) indent.toList).1 hindent

/-! ## The suggestions -/

/-- A suggestion opens a sequence entry with the given fields: it is a new element of a sequence of
such objects, or a field that holds such a sequence. -/
inductive OpensEntry (unit : String) (fields : Shape) : Suggestion → Prop
  | element (key : String) (info : FieldInfo) (typed : List Char) :
    OpensEntry unit fields (newElement key (.object info fields) unit typed)
  | field (name : String) (info elementInfo : FieldInfo) :
    OpensEntry unit fields (newField unit (name, .sequence info (.object elementInfo fields)))

/-- What `complete` suggests besides a new document is made for the level that the cursor is on. -/
theorem mem_complete_cases {text : String} {position : Position} {shape : Shape}
    {kind : DataFileKind} {unit : String} {s : Suggestion}
    (hs : s ∈ complete text position shape kind unit) :
    s.kind = .document ∨
      (∃ ancestors key element typed,
        shape.navigate? ancestors = some (.sequence key element) ∧
          s = newElement key element unit typed) ∨
      ∃ ancestors level f,
        shape.navigate? ancestors = some (.fields level) ∧ f ∈ level ∧ s = newField unit f := by
  rcases mem_complete_inv hs with ⟨_, _, _, rfl⟩ | ⟨ancestors, _, _, helement | hfield⟩
  · exact .inl rfl
  · obtain ⟨key, element, typed, hlevel, heq⟩ := helement
    exact .inr (.inl ⟨ancestors, key, element, typed, hlevel, heq⟩)
  · obtain ⟨level, f, hlevel, hf, heq⟩ := hfield
    exact .inr (.inr ⟨ancestors, level, f, hlevel, hf, heq⟩)

/-- A unit is made of spaces, at least one. -/
private theorem toList_indent (settings : Settings) :
    settings.indent.toList = List.replicate (max settings.indentUnit 1) ' ' := by
  rw [Settings.indent, String.toList_ofList]

/-- A suggestion that opens an entry ends with its lines: the dash stands at some column `n`, and
the other fields stand one unit behind that column. -/
theorem exists_lines_of_opensEntry {settings : Settings} {fields rest : Shape} {s : Suggestion}
    (hs : OpensEntry settings.indent fields s) {first : String × SchemaNode}
    (h : (fields.filter fun f => f.2.isRequired) = first :: rest)
    (hnames : ∀ f ∈ first :: rest, '\n' ∉ f.1.toList) :
    ∃ above n, lines (s.replacedPrefix ++ s.snippet).toList =
      above ++ (List.replicate n ' ' ++ '-' :: ' ' :: (fieldLine first).toList) ::
        rest.map fun f =>
          List.replicate (n + max settings.indentUnit 1) ' ' ++ (fieldLine f).toList := by
  have hindent := toList_indent settings
  have hbreak (n : Nat) : '\n' ∉ List.replicate n ' ' := by
    intro hmem
    exact absurd (List.eq_of_mem_replicate hmem) (by decide)
  cases hs with
  | element key info typed =>
    -- the snippet is cut at what is typed already, and completes it to the whole text
    have htext : ((newElement key (.object info fields) settings.indent typed).replacedPrefix ++
          (newElement key (.object info fields) settings.indent typed).snippet).toList =
        ['-', ' '] ++ (skeleton fields settings.indent false).toList := by
      have hfull := continueTyped_append ("- " ++ skeleton fields settings.indent false) typed
      exact (congrArg String.toList hfull).trans (String.toList_append ..)
    refine ⟨[], 0, ?_⟩
    rw [htext, lines_entry h hnames (by decide) (by rw [hindent]; exact hbreak _), hindent]
    simp
  | field name info elementInfo =>
    -- the entry of a field is indented by a unit, and its own lines by two
    generalize hunit : List.replicate (max settings.indentUnit 1) ' ' = spaces at hindent
    have htext : ((newField settings.indent
            (name, .sequence info (.object elementInfo fields))).replacedPrefix ++
          (newField settings.indent
            (name, .sequence info (.object elementInfo fields))).snippet).toList =
        (escapeSnippet name ++ ":").toList ++ '\n' :: ((spaces ++ ['-', ' ']) ++
          (skeleton fields (settings.indent ++ settings.indent) false).toList) := by
      have hcolon : ":\n".toList = ":".toList ++ ['\n'] := rfl
      have hdash : "- ".toList = ['-', ' '] := rfl
      simp only [newField, fieldSnippet, String.empty_append, String.toList_append, hindent, hcolon,
        hdash, List.append_assoc, List.cons_append, List.nil_append]
    have hspaces : '\n' ∉ spaces := hunit ▸ hbreak _
    have hdouble : (settings.indent ++ settings.indent).toList = spaces ++ spaces := by
      rw [String.toList_append, hindent]
    refine ⟨lines (escapeSnippet name ++ ":").toList, max settings.indentUnit 1, ?_⟩
    rw [htext, lines_append_newline_append, lines_entry h hnames (by simp [hspaces])
      (by simp [hdouble, hspaces]), hdouble, ← List.replicate_append_replicate, hunit]
    simp

/-- Every suggestion is for a new document, for a new element of the sequence that the cursor is in,
or for a field of the level that it is on. Those that open a sequence entry end with its lines, one
for each required field, of which the first has the dash. The others start in the column of the
entry exactly if a unit with the blanks of each name is as wide as the dash with its space and the
blanks of the first name. So if no name starts with a blank and there are other lines at all, they
start there exactly if a unit is two spaces. -/
theorem entry_aligned_iff (settings : Settings) :
    (∀ text position shape kind s, s ∈ complete text position shape kind settings.indent →
        s.kind = .document ∨
          (∃ ancestors key element typed,
            shape.navigate? ancestors = some (.sequence key element) ∧
              s = newElement key element settings.indent typed) ∨
          ∃ ancestors level f, shape.navigate? ancestors = some (.fields level) ∧ f ∈ level ∧
            s = newField settings.indent f) ∧
      ∀ fields s, OpensEntry settings.indent fields s → ∀ first rest,
        (fields.filter fun f => f.2.isRequired) = first :: rest →
        (∀ f ∈ first :: rest, '\n' ∉ f.1.toList) →
        ∃ above dash below,
          lines (s.replacedPrefix ++ s.snippet).toList = above ++ dash :: below ∧
            below.length = rest.length ∧ (entryColumn? dash).isSome ∧
            (Aligned dash below ↔ ∀ f ∈ rest,
              max settings.indentUnit 1 + indentCount f.1.toList =
                2 + indentCount first.1.toList) ∧
            (rest ≠ [] → (∀ f ∈ first :: rest, indentCount f.1.toList = 0) →
              (Aligned dash below ↔ settings.indentUnit = 2)) := by
  refine ⟨fun _ _ _ _ _ hs => mem_complete_cases hs, ?_⟩
  intro fields s hs first rest h hnames
  obtain ⟨above, n, hlines⟩ := exists_lines_of_opensEntry hs h hnames
  have hcolumn := entryColumn?_dash n (fieldLine first).toList
  -- the dash is followed by two columns and the blanks of the first name, the other lines by a unit
  -- and theirs
  have haligned : Aligned (List.replicate n ' ' ++ '-' :: ' ' :: (fieldLine first).toList)
      (rest.map fun f =>
        List.replicate (n + max settings.indentUnit 1) ' ' ++ (fieldLine f).toList) ↔
      ∀ f ∈ rest, max settings.indentUnit 1 + indentCount f.1.toList =
        2 + indentCount first.1.toList := by
    simp only [Aligned, List.forall_mem_map, hcolumn, indentCount_spaces,
      indentCount_fieldLine_eq, Option.some_inj]
    constructor
    · intro hall f hf
      have := hall f hf
      omega
    · intro hall f hf
      have := hall f hf
      omega
  refine ⟨above, _, _, hlines, List.length_map _, by rw [hcolumn]; rfl, haligned, ?_⟩
  intro hne hblanks
  rw [haligned]
  rw [List.forall_mem_cons] at hblanks
  constructor
  · intro hall
    -- there is another line, so a unit must be two spaces
    obtain ⟨f, others, rfl⟩ := List.exists_cons_of_ne_nil hne
    have hfirst := hall f List.mem_cons_self
    have hf := hblanks.2 f List.mem_cons_self
    omega
  · intro hunit f hf
    have := hblanks.2 f hf
    omega

/-- Two required fields. -/
def pairFields : Shape :=
  [("a", .scalar (.bare .required) .string), ("b", .scalar (.bare .required) .string)]

/-- A new element with a unit of two spaces, and a new field with a unit of four. -/
theorem entry_aligned_pairFields :
    let narrow : Settings := { Settings.default with indentUnit := 2 }
    let wide : Settings := { Settings.default with indentUnit := 4 }
    let element := newElement "xs" (.object (.bare .unspecified) pairFields) narrow.indent []
    let field := newField wide.indent
      ("xs", .sequence (.bare .optional) (.object (.bare .unspecified) pairFields))
    (OpensEntry narrow.indent pairFields element ∧ ∃ above dash below,
        lines (element.replacedPrefix ++ element.snippet).toList = above ++ dash :: below ∧
          below.length = 1 ∧ Aligned dash below) ∧
      OpensEntry wide.indent pairFields field ∧ ∃ above dash below,
        lines (field.replacedPrefix ++ field.snippet).toList = above ++ dash :: below ∧
          below.length = 1 ∧ ¬Aligned dash below := by
  intro narrow wide element field
  have helement : OpensEntry narrow.indent pairFields element := .element ..
  have hfield : OpensEntry wide.indent pairFields field := .field ..
  refine ⟨⟨helement, ?_⟩, hfield, ?_⟩
  · obtain ⟨above, dash, below, hlines, hlength, -, -, haligned⟩ :=
      (entry_aligned_iff narrow).2 pairFields element helement _ _ rfl (by decide)
    exact ⟨above, dash, below, hlines, hlength,
      (haligned (List.cons_ne_nil _ _) (by decide)).mpr rfl⟩
  · obtain ⟨above, dash, below, hlines, hlength, -, -, haligned⟩ :=
      (entry_aligned_iff wide).2 pairFields field hfield _ _ rfl (by decide)
    refine ⟨above, dash, below, hlines, hlength, ?_⟩
    rw [haligned (List.cons_ne_nil _ _) (by decide)]
    decide

end Completion

/-- A level with a sequence of objects that have two required fields. -/
def pairsShape : Shape :=
  [("xs", .sequence (.bare .optional) (.object (.bare .unspecified) Completion.pairFields))]

/-- With a unit of four spaces, the second line of an entry is too far to the right, in a new
element and in a new field. -/
theorem wide_unit_misaligns :
    let settings : Settings := { Settings.default with indentUnit := 4 }
    (∃ s ∈ complete "xs:\n  " ⟨1, 2⟩ pairsShape .primitive settings.indent, s.kind = .element ∧
        lines (s.replacedPrefix ++ s.snippet).toList = ["- a: ''".toList, "    b: ''".toList]) ∧
      (∃ s ∈ complete "y: 1\n\n" ⟨1, 0⟩ pairsShape .primitive settings.indent, s.kind = .field ∧
        lines (s.replacedPrefix ++ s.snippet).toList =
          ["xs:".toList, "    - a: ''".toList, "        b: ''".toList]) ∧
      ¬Aligned "- a: ''".toList ["    b: ''".toList] ∧
      ¬Aligned "    - a: ''".toList ["        b: ''".toList] := by
  intro settings
  -- both suggestions are evaluated on a small text
  have helement : complete "xs:\n  " ⟨1, 2⟩ pairsShape .primitive settings.indent =
      [⟨"New Element of xs:", .element, "- a: ''\n    b: ''", "", none, none⟩] := by decide +kernel
  have hfield : complete "y: 1\n\n" ⟨1, 0⟩ pairsShape .primitive settings.indent =
      [⟨"xs:", .field, "xs:\n    - a: ''\n        b: ''", "", none, none⟩] := by decide +kernel
  refine ⟨⟨_, helement ▸ List.mem_singleton_self _, rfl, by decide⟩,
    ⟨_, hfield ▸ List.mem_singleton_self _, rfl, by decide⟩, ?_, ?_⟩
  · unfold Aligned
    decide
  · unfold Aligned
    decide

end PrimitiveDesk
