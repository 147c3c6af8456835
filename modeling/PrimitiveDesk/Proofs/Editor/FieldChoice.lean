import Mathlib.Data.List.Nodup
import PrimitiveDesk.Proofs.Editor.SnippetRows
import PrimitiveDesk.Proofs.Schema.DistinctNames
import PrimitiveDesk.Proofs.Text.LinePositions

/-!
# Choosing a suggested field

On a blank line the fields of its level are suggested that are not written beside it. If one of them
is chosen, the line is replaced by its lines, and the same level is found again: the other fields
stay on offer, in their order, and the chosen one is gone. The text after the choice is
`Suggestion.accepted?`. What `complete` suggests there follows from what `resolve` gives there
(`Completion.exists_resolve_accepted`). That a name is on offer once and can be told apart is
inherited by every level of a schema (`Level.of_navigate?`).
-/

namespace PrimitiveDesk

open Layout Text

/-- The text in which a line is replaced by a suggestion: what the snippet stands for, with each of
its lines behind the indentation of the replaced line. -/
def Suggestion.accepted? (s : Suggestion) (text : String) (line : Nat) : Option String := do
  let seen ← (lines text.toList)[line]?
  let span ← (LineIndex.ofText text).lineSpan? line
  let edited ← replaceSpan? text.toList span
    (Completion.indented (indentation seen) (Completion.expand s.snippet.toList))
  return String.ofList edited

/-! ## The levels of a schema -/

namespace Level

variable {P : SchemaNode → Prop} {Q : Shape → Prop}

/-- The fields of a level have a property of shapes, the entries of a sequence one of nodes. -/
def Holds (P : SchemaNode → Prop) (Q : Shape → Prop) : Level → Prop
  | fields shape => Q shape
  | sequence _ element => P element

/-- Both properties pass to what is inside. -/
structure Inherited (P : SchemaNode → Prop) (Q : Shape → Prop) : Prop where
  field : ∀ shape, Q shape → ∀ f ∈ shape, P f.2
  object : ∀ info shape, P (.object info shape) → Q shape
  element : ∀ info element, P (.sequence info element) → P element

/-- What passes to the inside holds at the level that `inside?` gives. -/
private theorem holds_of_inside? (h : Inherited P Q) {name : String} {node : SchemaNode}
    (hnode : P node) {level : Level} (hlevel : inside? name node = some level) :
    level.Holds P Q := by
  cases node with
  | scalar info type => cases hlevel
  | sequence info element =>
    cases hlevel
    exact h.element info element hnode
  | object info shape =>
    cases hlevel
    exact h.object info shape hnode

/-- It holds after one `step?`. -/
private theorem holds_of_step? (h : Inherited P Q) {level next : Level} (hlevel : level.Holds P Q)
    {key : String} (hstep : level.step? key = some next) : next.Holds P Q := by
  cases level with
  | fields shape =>
    -- a key of a mapping leads inside the field of that name
    obtain ⟨node, hfind, hinside⟩ := Option.bind_eq_some_iff.mp hstep
    have hnode : P node := h.field shape hlevel (key, node) (Assoc.mem_of_find? hfind)
    exact holds_of_inside? h hnode hinside
  | sequence outer element =>
    -- in a sequence only the key of an entry leads on
    simp only [step?] at hstep
    split at hstep
    · exact holds_of_inside? h hlevel hstep
    · cases hstep

/-- It holds wherever `follow?` leads. -/
private theorem holds_of_follow? (h : Inherited P Q) {level last : Level} (hlevel : level.Holds P Q)
    {keys : List String} (hfollow : level.follow? keys = some last) : last.Holds P Q := by
  induction keys generalizing level with
  | nil =>
    cases hfollow
    exact hlevel
  | cons key rest ih =>
    obtain ⟨next, hstep, hrest⟩ := Option.bind_eq_some_iff.mp hfollow
    exact ih (holds_of_step? h hlevel hstep) hrest

/-- What all fields of a schema inherit holds at each level that `navigate?` reaches. -/
theorem of_navigate? (h : Inherited P Q) {root shape : Shape} (hroot : Q root)
    {ancestors : List String} (hlevel : root.navigate? ancestors = some (.fields shape)) :
    Q shape := by
  have hstart : (fields root).Holds P Q := hroot
  exact holds_of_follow? h hstart hlevel

/-- Names that are distinct in a schema are distinct at each of its levels. -/
theorem inherited_distinct : Inherited (fun node => node.distinct) fun shape => shape.distinct where
  field _ hshape _ hf := Shape.distinct_of_mem hshape hf
  object _ _ hnode := Shape.distinct_of_shape? hnode rfl
  element _ _ hnode := SchemaNode.distinct_of_element? hnode rfl

/-- If the fields of a schema are named by keys, so are those at each of its levels. -/
theorem inherited_namedByKeys : Inherited SchemaNode.NamedByKeys Shape.NamedByKeys where
  field _ hshape f hf := (SchemaNode.fieldsNamedByKeys_iff.mp hshape f hf).2
  object _ _ hnode := by rwa [SchemaNode.NamedByKeys] at hnode
  element _ _ hnode := by rwa [SchemaNode.NamedByKeys] at hnode

end Level

namespace Completion

/-! ## The suggested fields -/

variable {text : String} {position : Position} {root : Shape} {kind : DataFileKind} {unit : String}
  {ancestors siblings : List String} {fields : Shape}

/-- Every line has a span. -/
private theorem exists_lineSpan? {i : Nat} (h : i < (lines text.toList).length) :
    ∃ span, (LineIndex.ofText text).lineSpan? i = some span := by
  rw [lines, List.length_map] at h
  exact ⟨_, LineIndex.lineSpan?_of_line (List.getElem?_eq_getElem h)⟩

/-- On a line of a level with fields, `complete` suggests those that do not stand beside it. -/
theorem complete_eq_map_newField (hline : position.line < (lines text.toList).length)
    (hresolve : resolve text position.line = some (.nested ancestors siblings))
    (hlevel : root.navigate? ancestors = some (.fields fields)) :
    complete text position root kind unit =
      (fields.filter fun f => !siblings.contains f.1).map (newField unit) := by
  obtain ⟨span, hspan⟩ := exists_lineSpan? hline
  rw [resolve] at hresolve
  simp only [complete, hresolve, hspan, suggest, hlevel]

/-- `complete` suggests fields only on such a line. -/
private theorem exists_level_of_field_mem {s : Suggestion}
    (hs : s ∈ complete text position root kind unit) (hkind : s.kind = .field) :
    ∃ ancestors siblings fields, resolve text position.line = some (.nested ancestors siblings) ∧
      root.navigate? ancestors = some (.fields fields) := by
  rcases mem_complete_inv hs with ⟨_, _, _, rfl⟩ | ⟨ancestors, siblings, hresolve, hlevel⟩
  · -- a new document and a new element are no fields
    cases hkind
  · rcases hlevel with ⟨_, _, _, _, rfl⟩ | ⟨fields, _, hlevel, _⟩
    · cases hkind
    · exact ⟨ancestors, siblings, fields, hresolve, hlevel⟩

/-- The labels of `newField` are the names in the order of the level. -/
private theorem map_label_newField (unit : String) (fields : Shape) (siblings : List String) :
    ((fields.filter fun f => !siblings.contains f.1).map (newField unit)).map (·.label) =
      ((Assoc.names fields).filter (· ∉ siblings)).map (· ++ ":") := by
  rw [Assoc.names, List.filter_map, List.map_map, List.map_map]
  congr 1
  refine List.filter_congr fun f _ => ?_
  simp

/-- In a level with distinct names, `newField` tells fields apart. -/
private theorem newField_eq_iff (unit : String) (h : (Assoc.names fields).Nodup)
    {f g : String × SchemaNode} (hf : f ∈ fields) (hg : g ∈ fields) :
    newField unit f = newField unit g ↔ f.1 = g.1 := by
  constructor
  · intro heq
    have hlabel : f.1 ++ ":" = g.1 ++ ":" := congrArg Suggestion.label heq
    exact (String.append_left_inj ":").mp hlabel
  · intro hname
    rw [List.inj_on_of_nodup_map h hf hg hname]

/-- With the name of a field among those beside the line, its suggestion is left out, and all others
stay. -/
private theorem filter_newField_ne (h : (Assoc.names fields).Nodup) {f : String × SchemaNode}
    (hf : f ∈ fields) (front back : List String) :
    ((fields.filter fun g => !(front ++ back).contains g.1).map (newField unit)).filter
        (· ≠ newField unit f) =
      (fields.filter fun g => !(front ++ f.1 :: back).contains g.1).map (newField unit) := by
  rw [List.filter_map, List.filter_filter]
  congr 1
  refine List.filter_congr fun g hg => ?_
  -- a suggestion is left out by its label, which is the name of its field
  have hsame := newField_eq_iff unit h hg hf
  by_cases hname : g.1 = f.1
  · simp [hsame.mpr hname, hname]
  · have hother : newField unit g ≠ newField unit f := fun heq => hname (hsame.mp heq)
    simp [hother, hname]

/-! ## After the choice -/

/-- The keys beside a blank line fall into two parts. After a field is chosen on it, the line has
the same enclosing levels, and the name of the field stands between these parts. -/
theorem exists_resolve_accepted {i width : Nat} {line : List Char}
    (hunit : unit.toList = List.replicate (width + 1) ' ')
    (hline : (lines text.toList)[i]? = some line) (hblank : ∀ c ∈ line, isBlank c)
    (hresolve : resolve text i = some (.nested ancestors siblings)) :
    ∃ front back, siblings = front ++ back ∧ ∀ (key : Key) (node : SchemaNode), node.NamedByKeys →
      ∃ edited, (newField unit (key.name, node)).accepted? text i = some edited ∧
        i < (lines edited.toList).length ∧
        resolve edited i = some (.nested ancestors (front ++ key.name :: back)) := by
  have hlt : i < (lines text.toList).length := (List.getElem?_eq_some_iff.mp hline).1
  obtain ⟨front, back, hsiblings, hinsert⟩ := exists_resolveLines_insert hline hblank hresolve
  refine ⟨front, back, hsiblings, fun key node hnode => ?_⟩
  obtain ⟨span, hspan⟩ := exists_lineSpan? hlt
  -- the edited text has the lines of the snippet in place of the line
  obtain ⟨returns, hreturns, hedit⟩ := exists_replaceSpan?_lineSpan? hspan
  obtain ⟨tail, inner, hlines, hinner⟩ :=
    exists_lines_indented hunit key hnode hblank (not_mem_of_getElem?_lines hline) hreturns
  obtain ⟨edited, hreplace, hnew⟩ :=
    hedit (indented line (expand (fieldSnippet key.name node unit).toList))
  have hindent : indentation line = line := by
    rw [indentation, LineShape.of_blank hblank]
  rw [hlines, List.append_assoc, List.cons_append] at hnew
  refine ⟨String.ofList edited, ?_, ?_, ?_⟩
  · simp only [Suggestion.accepted?, hline, hspan, hindent, newField, hreplace, Option.bind_eq_bind,
      Option.bind_some, Option.pure_def]
  · rw [String.toList_ofList, hnew, List.length_append, List.length_take_of_le hlt.le,
      List.length_cons]
    omega
  · rw [resolve, String.toList_ofList, hnew]
    exact hinsert key tail inner hinner

/-- On a blank line, if fields are suggested at all, they are the fields of the level that the
enclosing keys lead to and that do not stand beside the line, each once and in the order of the
level. After one of them is chosen, the others are suggested on the line, and nothing else. -/
theorem choice_leaves_others {width : Nat} {line : List Char} {s : Suggestion}
    (hnames : root.NamedByKeys) (hdistinct : root.distinct)
    (hunit : unit.toList = List.replicate (width + 1) ' ')
    (hline : (lines text.toList)[position.line]? = some line) (hblank : ∀ c ∈ line, isBlank c)
    (hs : s ∈ complete text position root kind unit) (hkind : s.kind = .field) :
    ∃ ancestors siblings fields,
      resolve text position.line = some (.nested ancestors siblings) ∧
      root.navigate? ancestors = some (.fields fields) ∧
      (complete text position root kind unit).map (·.label) =
        ((Assoc.names fields).filter (· ∉ siblings)).map (· ++ ":") ∧
      ((complete text position root kind unit).map (·.label)).Nodup ∧
      ∃ edited, s.accepted? text position.line = some edited ∧
        ∀ character, complete edited ⟨position.line, character⟩ root kind unit =
          (complete text position root kind unit).filter (· ≠ s) := by
  have hlt : position.line < (lines text.toList).length := (List.getElem?_eq_some_iff.mp hline).1
  obtain ⟨ancestors, siblings, fields, hresolve, hlevel⟩ := exists_level_of_field_mem hs hkind
  have hcomplete : complete text position root kind unit =
      (fields.filter fun f => !siblings.contains f.1).map (newField unit) :=
    complete_eq_map_newField hlt hresolve hlevel
  -- the level inherits distinct names and keys from the schema
  have hnodup : (Assoc.names fields).Nodup :=
    (Shape.distinct_iff.mp (Level.of_navigate? Level.inherited_distinct hdistinct hlevel)).1
  have hkeys : fields.NamedByKeys :=
    Level.of_navigate? Level.inherited_namedByKeys hnames hlevel
  have hlabels := map_label_newField unit fields siblings
  rw [hcomplete] at hs ⊢
  refine ⟨ancestors, siblings, fields, hresolve, hlevel, hlabels, ?_, ?_⟩
  · rw [hlabels]
    exact (hnodup.filter _).map fun _ _ heq => (String.append_left_inj ":").mp heq
  · -- the chosen field, whose name is a key
    obtain ⟨f, hf, rfl⟩ := List.mem_map.mp hs
    have hmem : f ∈ fields := (List.mem_filter.mp hf).1
    obtain ⟨⟨key, hkey⟩, hnode⟩ := SchemaNode.fieldsNamedByKeys_iff.mp hkeys f hmem
    obtain ⟨front, back, rfl, hchoice⟩ := exists_resolve_accepted hunit hline hblank hresolve
    obtain ⟨edited, haccepted, hlt', hresolve'⟩ := hchoice key f.2 hnode
    rw [hkey] at haccepted hresolve'
    refine ⟨edited, haccepted, fun character => ?_⟩
    rw [filter_newField_ne hnodup hmem]
    exact complete_eq_map_newField hlt' hresolve' hlevel

end Completion

/-- A level with an object, in which a sequence has a name that snippets escape. -/
def priceShape : Shape :=
  [("entry", .object (.bare .optional)
    [("a", .scalar (.bare .required) .integer),
      ("$s", .sequence (.bare .optional) (.object (.bare .unspecified)
        [("k", .scalar (.bare .required) .string), ("l", .scalar (.bare .required) .string)])),
      ("b", .scalar (.bare .optional) .integer), ("c", .scalar (.bare .optional) .string)])]

private theorem namedByKeys_priceShape : priceShape.NamedByKeys := by
  simp only [Shape.NamedByKeys, priceShape, SchemaNode.FieldsNamedByKeys, SchemaNode.NamedByKeys,
    and_true, true_and]
  exact ⟨⟨{ chars := "entry".toList }, rfl⟩, ⟨{ chars := "a".toList }, rfl⟩,
    ⟨{ chars := "$s".toList }, rfl⟩,
    ⟨⟨{ chars := "k".toList }, rfl⟩, ⟨{ chars := "l".toList }, rfl⟩⟩,
    ⟨{ chars := "b".toList }, rfl⟩, ⟨{ chars := "c".toList }, rfl⟩⟩

/-- Between two fields that are written, two others are on offer. After the sequence is chosen, with
the first of its entries, only the other one is. -/
theorem choice_leaves_others_priceShape :
    ∃ s t, complete "entry:\n  a: 1\n  \n  b: 2\n" ⟨2, 2⟩ priceShape .primitive "  " = [s, t] ∧
      s.label = "$s:" ∧ t.label = "c:" ∧
      s.accepted? "entry:\n  a: 1\n  \n  b: 2\n" 2 =
        some "entry:\n  a: 1\n  $s:\n    - k: ''\n      l: ''\n  b: 2\n" ∧
      ∀ character, complete "entry:\n  a: 1\n  $s:\n    - k: ''\n      l: ''\n  b: 2\n"
        ⟨2, character⟩ priceShape .primitive "  " = [t] := by
  have hcomplete : complete "entry:\n  a: 1\n  \n  b: 2\n" ⟨2, 2⟩ priceShape .primitive "  " =
      [⟨"$s:", .field, "\\$s:\n  - k: ''\n    l: ''", "", none, none⟩,
        ⟨"c:", .field, "c: ", "", none, none⟩] := by decide +kernel
  have htext : Suggestion.accepted?
        ⟨"$s:", .field, "\\$s:\n  - k: ''\n    l: ''", "", none, none⟩
        "entry:\n  a: 1\n  \n  b: 2\n" 2 =
      some "entry:\n  a: 1\n  $s:\n    - k: ''\n      l: ''\n  b: 2\n" := by decide +kernel
  have hunit : "  ".toList = List.replicate (1 + 1) ' ' := rfl
  have hline : (lines "entry:\n  a: 1\n  \n  b: 2\n".toList)[(⟨2, 2⟩ : Position).line]? =
      some "  ".toList := by decide
  have hblank : ∀ c ∈ "  ".toList, isBlank c := List.all_eq_true.mp (by decide)
  refine ⟨_, _, hcomplete, rfl, rfl, htext, fun character => ?_⟩
  obtain ⟨-, -, -, -, -, -, -, edited, haccepted, hrest⟩ :=
    Completion.choice_leaves_others namedByKeys_priceShape (by decide) hunit hline hblank
      (hcomplete ▸ List.mem_cons_self) rfl
  obtain rfl : _ = edited := Option.some_inj.mp (htext.symm.trans haccepted)
  rw [hrest, hcomplete]
  decide

end PrimitiveDesk
