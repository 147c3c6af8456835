import PrimitiveDesk.Proofs.Assoc.Firsts
import PrimitiveDesk.Schema.Basic

/-!
# The flat form of a schema loses nothing

The flat form leaves out what a node leaves open: an unspecified cardinality, a flag that is not
set, a default, a comment and examples that are not there. Each part stands under a name of its own,
so a part that is missing cannot be mistaken for another one (`Assoc.written_inj`), and the type
tells whether `items` holds the element of a sequence or the fields of an object. So two schemata
with the same flat form can differ in nothing but the defaults as their sources write them, which
the form never shows.

`SchemaNode.toJson` is what is written of the parts of a node (`SchemaNode.toJson_eq`), and
`SchemaNode.shown` is a schema without what its flat form never shows.
-/

namespace PrimitiveDesk

/-! ## Parts that may be left out -/

namespace Assoc

variable {α : Type}

/-- The values that are there, under their names. -/
def written (parts : List (String × Option α)) : List (String × α) :=
  parts.filterMap fun p => p.2.map fun v => (p.1, v)

private theorem written_cons_none (name : String) (parts : List (String × Option α)) :
    written ((name, none) :: parts) = written parts := rfl

private theorem written_cons_some (name : String) (v : α) (parts : List (String × Option α)) :
    written ((name, some v) :: parts) = (name, v) :: written parts := rfl

private theorem written_append (ps qs : List (String × Option α)) :
    written (ps ++ qs) = written ps ++ written qs :=
  List.filterMap_append

/-- Nothing is written under a name that no part has. -/
private theorem mem_names_of_mem_written {parts : List (String × Option α)} {e : String × α}
    (h : e ∈ written parts) : e.1 ∈ names parts := by
  obtain ⟨p, hp, hwritten⟩ := List.mem_filterMap.mp h
  obtain ⟨v, -, rfl⟩ := Option.map_eq_some_iff.mp hwritten
  exact List.mem_map_of_mem hp

/-- What is written tells which parts are there, since a part that is left out cannot be mistaken
for a later one. -/
theorem written_inj {ps qs : List (String × Option α)} (hnames : names ps = names qs)
    (hnodup : (names ps).Nodup) (h : written ps = written qs) : ps = qs := by
  induction ps generalizing qs with
  | nil =>
    have hlength := congrArg List.length hnames
    simp only [names, List.length_map, List.length_nil] at hlength
    exact (List.length_eq_zero_iff.mp hlength.symm).symm
  | cons p ps ih =>
    cases qs with
    | nil => cases hnames
    | cons q qs =>
      obtain ⟨name, v?⟩ := p
      obtain ⟨name', w?⟩ := q
      rw [names_cons, names_cons, List.cons.injEq] at hnames
      obtain ⟨hname, hnames⟩ : name = name' ∧ names ps = names qs := hnames
      subst hname
      rw [names_cons, List.nodup_cons] at hnodup
      have hps : ∀ w, (name, w) ∉ written ps := fun w hw => hnodup.1 (mem_names_of_mem_written hw)
      have hqs : ∀ w, (name, w) ∉ written qs := fun w hw =>
        hnodup.1 (hnames ▸ mem_names_of_mem_written hw)
      -- a part that is left out on one side only would be found among the later ones of that side
      cases v? with
      | none =>
        cases w? with
        | none => rw [ih hnames hnodup.2 h]
        | some w =>
          rw [written_cons_none, written_cons_some] at h
          exact absurd (h ▸ List.mem_cons_self) (hps w)
      | some v =>
        cases w? with
        | none =>
          rw [written_cons_some, written_cons_none] at h
          exact absurd (h ▸ List.mem_cons_self) (hqs v)
        | some w =>
          rw [written_cons_some, written_cons_some, List.cons.injEq, Prod.mk.injEq] at h
          rw [h.1.2, ih hnames hnodup.2 h.2]

end Assoc

/-! ## The parts of a node -/

/-- What all schema nodes have, without the default as the source writes it. -/
def FieldInfo.shown (i : FieldInfo) : FieldInfo := { i with sourceDefault? := none }

namespace SchemaNode

/-- The type of a node in its flat form. -/
def typeName : SchemaNode → String
  | scalar _ t => t.name
  | sequence _ _ => "array"
  | object _ _ => "object"

/-- What stands under `items` in the flat form of a node. -/
def items? : SchemaNode → Option Json
  | scalar _ _ => none
  | sequence _ e => some e.toJson
  | object _ fields => some (.obj (fieldsToJson fields))

/-- The bounds and the flag of a node. -/
def cardinalityParts (i : FieldInfo) : List (String × Option Json) :=
  [("minValue", if i.cardinality = .unspecified then none else some (.int i.cardinality.least)),
    ("maxValue", if i.cardinality = .unspecified then none else some (.int i.cardinality.largest)),
    ("recommended", if i.recommended then some (.bool true) else none)]

/-- The default, the comment and the examples of a node. -/
def infoParts (i : FieldInfo) : List (String × Option Json) :=
  [("default", i.default?), ("comment", i.comment?.map .str),
    ("examples", if i.examples.isEmpty then none else some (.arr i.examples))]

/-- All parts of a flat form in their order, with those that are left out. -/
def parts (type : String) (i : FieldInfo) (items? : Option Json) : List (String × Option Json) :=
  ("type", some (.str type)) :: (cardinalityParts i ++ ("items", items?) :: infoParts i)

/-- `cardinalityMembers` are what is written of the bounds and the flag. -/
private theorem written_cardinalityParts (i : FieldInfo) :
    Assoc.written (cardinalityParts i) = cardinalityMembers i := by
  unfold cardinalityParts cardinalityMembers
  by_cases hc : i.cardinality = .unspecified <;> cases i.recommended <;> simp [hc, Assoc.written]

/-- `infoMembers` are what is written of the default, the comment and the examples. -/
private theorem written_infoParts (i : FieldInfo) :
    Assoc.written (infoParts i) = infoMembers i := by
  unfold infoParts infoMembers
  cases i.default? <;> cases i.comment? <;> cases i.examples <;> rfl

/-- `toJson` is what is written of the parts of a node. -/
theorem toJson_eq (n : SchemaNode) :
    n.toJson = .obj (Assoc.written (parts n.typeName n.info n.items?)) := by
  rw [parts, Assoc.written_cons_some, Assoc.written_append, written_cardinalityParts]
  cases n with
  | scalar i t => rw [items?, Assoc.written_cons_none, written_infoParts, toJson]; rfl
  | sequence i e => rw [items?, Assoc.written_cons_some, written_infoParts, toJson]; rfl
  | object i fields => rw [items?, Assoc.written_cons_some, written_infoParts, toJson]; rfl

/-- Two cardinalities with the same bounds are the same, also where the bounds are left out. -/
private theorem cardinality_eq_of_parts {c d : Cardinality}
    (hmin : (if c = .unspecified then none else some (Json.int c.least)) =
      if d = .unspecified then none else some (Json.int d.least))
    (hmax : (if c = .unspecified then none else some (Json.int c.largest)) =
      if d = .unspecified then none else some (Json.int d.largest)) : c = d := by
  by_cases hc : c = .unspecified
  · by_cases hd : d = .unspecified
    · rw [hc, hd]
    · simp [hc, hd] at hmin
  · by_cases hd : d = .unspecified
    · simp [hc, hd] at hmin
    · obtain ⟨least, largest⟩ := c
      obtain ⟨least', largest'⟩ := d
      simp only [hc, hd, if_false, Option.some_inj, Json.int.injEq] at hmin hmax
      rw [Int.ofNat_inj.mp hmin, Int.ofNat_inj.mp hmax]

/-- The parts tell all that is shown of a node. -/
private theorem parts_inj {type type' : String} {i j : FieldInfo} {items? items?' : Option Json}
    (h : parts type i items? = parts type' j items?') :
    type = type' ∧ i.shown = j.shown ∧ items? = items?' := by
  obtain ⟨c, recommended, comment?, default?, source?, examples⟩ := i
  obtain ⟨c', recommended', comment?', default?', source?', examples'⟩ := j
  simp only [parts, cardinalityParts, infoParts, List.cons_append, List.nil_append,
    List.cons.injEq, Prod.mk.injEq, true_and, and_true, Option.some_inj, Json.str.injEq] at h
  obtain ⟨htype, hmin, hmax, hflag, hitems, hdefault, hcomment, hexamples⟩ := h
  -- what is left out is told from what is there, part by part
  have hrecommended : recommended = recommended' := by
    cases recommended <;> cases recommended' <;> simp at hflag ⊢
  have htext : comment? = comment?' := by
    cases comment? <;> cases comment?' <;> simp at hcomment ⊢
    exact hcomment
  have hlist : examples = examples' := by
    cases examples <;> cases examples' <;> simp at hexamples ⊢
    exact hexamples
  refine ⟨htype, ?_, hitems⟩
  rw [FieldInfo.shown, FieldInfo.shown, cardinality_eq_of_parts hmin hmax, hrecommended, htext,
    hdefault, hlist]

/-- The flat forms of two nodes agree only if the nodes agree in their types, in all that is shown
of them, and in what stands below them. -/
theorem parts_of_toJson_eq {n m : SchemaNode} (h : n.toJson = m.toJson) :
    n.typeName = m.typeName ∧ n.info.shown = m.info.shown ∧ n.items? = m.items? := by
  rw [toJson_eq, toJson_eq, Json.obj.injEq] at h
  have hnodup : (Assoc.names (parts n.typeName n.info n.items?)).Nodup := by
    show ["type", "minValue", "maxValue", "recommended", "items", "default", "comment",
      "examples"].Nodup
    decide
  exact parts_inj (Assoc.written_inj rfl hnodup h)

/-! ## Whole schemata -/

mutual

/-- The node without the defaults as the source writes them, at every depth. -/
def shown : SchemaNode → SchemaNode
  | scalar i t => scalar i.shown t
  | sequence i e => sequence i.shown (shown e)
  | object i fields => object i.shown (fieldsShown fields)

/-- The fields without the defaults as the source writes them, at every depth. -/
def fieldsShown : List (String × SchemaNode) → List (String × SchemaNode)
  | [] => []
  | (name, field) :: rest => (name, shown field) :: fieldsShown rest

end

mutual

/-- `toJson` shows nothing else. -/
private theorem toJson_shown : ∀ n : SchemaNode, n.shown.toJson = n.toJson
  | scalar i t => by rw [shown, toJson, toJson]; rfl
  | sequence i e => by rw [shown, toJson, toJson, toJson_shown e]; rfl
  | object i fields => by rw [shown, toJson, toJson, fieldsToJson_shown fields]; rfl

/-- Neither does `fieldsToJson`. -/
private theorem fieldsToJson_shown : ∀ fields : List (String × SchemaNode),
    fieldsToJson (fieldsShown fields) = fieldsToJson fields
  | [] => by rw [fieldsShown]
  | (name, field) :: rest => by
    rw [fieldsShown, fieldsToJson, fieldsToJson, toJson_shown field, fieldsToJson_shown rest]

end

/-- The names of scalar types differ from each other and from those of sequences and objects. -/
private theorem typeName_cases (t : ScalarType) :
    (∀ t', t.name = ScalarType.name t' → t = t') ∧ t.name ≠ "array" ∧ t.name ≠ "object" := by
  refine ⟨fun t' => ?_, ?_, ?_⟩
  · cases t <;> cases t' <;> decide
  · cases t <;> decide
  · cases t <;> decide

mutual

/-- The recursion is on the first node. The type tells the constructor of the second one, and the
rest is told by the parts of both. -/
private theorem shown_eq_of_toJson_eq :
    ∀ {n m : SchemaNode}, n.toJson = m.toJson → n.shown = m.shown
  | scalar i t, m, h => by
    obtain ⟨htype, hinfo, -⟩ := parts_of_toJson_eq h
    obtain ⟨hname, harray, hobject⟩ := typeName_cases t
    cases m with
    | scalar j t' => rw [shown, shown, hname t' htype]; exact congrArg (scalar · t') hinfo
    | sequence j e => exact absurd htype harray
    | object j fields => exact absurd htype hobject
  | sequence i e, m, h => by
    obtain ⟨htype, hinfo, hitems⟩ := parts_of_toJson_eq h
    cases m with
    | scalar j t => exact absurd htype.symm (typeName_cases t).2.1
    | sequence j e' =>
      have helement : e.shown = e'.shown := shown_eq_of_toJson_eq (Option.some.inj hitems)
      rw [shown, shown, helement]
      exact congrArg (sequence · _) hinfo
    | object j fields => exact absurd htype (by decide : "array" ≠ "object")
  | object i fields, m, h => by
    obtain ⟨htype, hinfo, hitems⟩ := parts_of_toJson_eq h
    cases m with
    | scalar j t => exact absurd htype.symm (typeName_cases t).2.2
    | sequence j e => exact absurd htype (by decide : "object" ≠ "array")
    | object j fields' =>
      have hfields : fieldsShown fields = fieldsShown fields' :=
        fieldsShown_eq_of_fieldsToJson_eq (Json.obj.inj (Option.some.inj hitems))
      rw [shown, shown, hfields]
      exact congrArg (object · _) hinfo

/-- Fields with the same flat form show the same, one by one. -/
private theorem fieldsShown_eq_of_fieldsToJson_eq : ∀ {fields fields' : List (String × SchemaNode)},
    fieldsToJson fields = fieldsToJson fields' → fieldsShown fields = fieldsShown fields'
  | [], [], _ => rfl
  | [], _ :: _, h => by rw [fieldsToJson, fieldsToJson] at h; cases h
  | _ :: _, [], h => by rw [fieldsToJson, fieldsToJson] at h; cases h
  | (name, field) :: rest, (name', field') :: rest', h => by
    rw [fieldsToJson, fieldsToJson, List.cons.injEq, Prod.mk.injEq] at h
    obtain ⟨⟨hname, hfield⟩, hrest⟩ := h
    rw [fieldsShown, fieldsShown, hname, shown_eq_of_toJson_eq hfield,
      fieldsShown_eq_of_fieldsToJson_eq hrest]

end

end SchemaNode

/-- The level without the defaults as the source writes them, at every depth. -/
def Shape.shown (s : Shape) : Shape := SchemaNode.fieldsShown s

/-- The flat form is lossless: two nodes, or two levels, have the same flat form if and only if they
are equal at every depth in everything but the defaults as the source writes them. -/
theorem SchemaNode.toJson_lossless :
    (∀ n m : SchemaNode, n.toJson = m.toJson ↔ n.shown = m.shown) ∧
      ∀ s t : Shape, s.toJson = t.toJson ↔ s.shown = t.shown := by
  refine ⟨fun n m => ⟨shown_eq_of_toJson_eq, fun h => ?_⟩, fun s t => ⟨fun h => ?_, fun h => ?_⟩⟩
  · rw [← toJson_shown n, ← toJson_shown m, h]
  · exact fieldsShown_eq_of_fieldsToJson_eq (Json.obj.inj h)
  · have hmembers : fieldsToJson (fieldsShown s) = fieldsToJson (fieldsShown t) :=
      congrArg fieldsToJson h
    rw [fieldsToJson_shown, fieldsToJson_shown] at hmembers
    exact congrArg Json.obj hmembers

end PrimitiveDesk
