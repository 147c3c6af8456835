import Mathlib.Data.List.Forall2
import PrimitiveDesk.Proofs.Schema.DistinctNames
import PrimitiveDesk.Proofs.Schema.SourceFaults

/-!
# What a schema source declares

Every node of a schema has a source: the spec of a field, in the section that lists it last, or the
entry type of a sequence. `Declares` says what the source tells about the node, and about all nodes
below it: how often it may appear, its default, and the names of its fields in their order.

`sections` sets the fields of a level one after the other, in the order of the listings
(`sections_eq_ok`). What each part of a source declares is proved along the functions that read it,
`sections`, `elementOf` and `ofSpec` (`declares_sections`, `declares_ofSpec`), and so a level that
is read is as its source declares it, at every depth (`Shape.declares_ofSections`). In particular it
has each name once, even where its source repeats one (`Shape.distinct_ofSections`).
-/

namespace PrimitiveDesk

namespace SchemaNode

open Assoc

/-! ## Sources -/

/-- The fields that the sections of a mapping list, in the order in which they are written: each
with its section and its spec. -/
def listings (members : Json.Members) : List (String × String × Json) :=
  members.flatMap fun m =>
    if m.1 = "required" ∨ m.1 = "optional" then
      (m.2.members?.getD []).map fun f => (f.1, m.1, f.2)
    else []

/-- The mapping whose sections list the fields that a spec describes: the entry type of a
dictionary, if it has sections, or else the spec itself. -/
def levelOf (members : Json.Members) : Json.Members :=
  match find? members "type", find? members "entry_type" with
  | some (.str name), some (.obj entry) =>
    if (name = "dict" ∨ name = "object") ∧ hasSections entry then entry else members
  | _, _ => members

/-- What a node of a schema is read from. -/
inductive Source where
  /-- The spec of a field in the section that lists it. -/
  | field (heading : String) (spec : Json)
  /-- The entry type of a sequence, if it has one. -/
  | element (type? : Option Json)

namespace Source

/-- The value that describes the node; nothing is like null. -/
def value : Source → Json
  | field _ spec => spec
  | element type? => type?.getD .null

/-- Whether the sections of the node stand in the source itself, without a spec around them. -/
def isLevel : Source → Bool
  | field _ _ => false
  | element type? => type?.any SchemaNode.isLevel

/-- The members of the mapping that describes the node. -/
def members (s : Source) : Json.Members :=
  s.value.members?.getD []

/-- How often the node may appear, at least and at most. -/
def bounds : Source → Nat × Nat
  | field heading _ => if heading = "required" then (1, 1) else (0, 1)
  | element _ => (0, 0)

/-- The default as it is written in a spec. -/
def default? (s : Source) : Option Json :=
  if s.isLevel then none else find? s.members "default"

/-- The mapping whose sections list the fields of the node. -/
def level (s : Source) : Json.Members :=
  if s.isLevel then s.members else levelOf s.members

/-- The source of the elements of the node. -/
def entry (s : Source) : Source :=
  element (find? s.members "entry_type")

end Source

/-- The names of the fields are distinct, and in the order in which the sections list them first. -/
structure ListsFields (members : Json.Members) (fields : Shape) : Prop where
  distinct : (names fields).Nodup
  order : names fields = names (firsts (listings members))

/-- The bounds and the default of a node are those of its source; `normal` is what a default of the
node's kind becomes. -/
structure Describes (s : Source) (info : FieldInfo) (normal : Json → Json) : Prop where
  bounds : (info.cardinality.least, info.cardinality.largest) = s.bounds
  sourceDefault : info.sourceDefault? = s.default?
  default : info.default? = info.sourceDefault?.map normal

mutual

/-- The node is as its source declares it, and so are all nodes below it. -/
def Declares (s : Source) : SchemaNode → Prop
  | scalar info _ => Describes s info id
  | sequence info element =>
    Describes s info (fun _ => .arr []) ∧ Declares s.entry element
  | object info fields =>
    Describes s info (fun _ => .obj []) ∧ ListsFields s.level fields ∧ DeclaresAll s.level fields

/-- Every field is as the section that lists it last declares it. -/
def DeclaresAll (members : Json.Members) : List (String × SchemaNode) → Prop
  | [] => True
  | (name, field) :: rest =>
    (∃ heading spec, find? (listings members).reverse name = some (heading, spec) ∧
      Declares (.field heading spec) field) ∧ DeclaresAll members rest

end

/-- `DeclaresAll` says the same of every field. -/
private theorem declaresAll_iff {members : Json.Members} {fields : List (String × SchemaNode)} :
    DeclaresAll members fields ↔ ∀ e ∈ fields, ∃ heading spec,
      find? (listings members).reverse e.1 = some (heading, spec) ∧
        Declares (.field heading spec) e.2 := by
  induction fields with
  | nil => simp [DeclaresAll]
  | cons e rest ih =>
    obtain ⟨name, field⟩ := e
    rw [DeclaresAll, ih, List.forall_mem_cons]

/-! ## Reading the sections of a level -/

/-- A result that is made from another one needs that. -/
private theorem exists_of_bind_eq_ok {α β : Type} {x : Except SchemaError α}
    {f : α → Except SchemaError β} {b : β} (h : x >>= f = .ok b) :
    ∃ a, x = .ok a ∧ f a = .ok b := by
  cases x with
  | error e => cases h
  | ok a => exact ⟨a, rfl, h⟩

/-- The node of a field was read from the spec of a listing, by its section. -/
def ReadFrom (listing : String × String × Json) (e : String × SchemaNode) : Prop :=
  e.1 = listing.1 ∧ ∃ path c, Cardinality.ofSection? listing.2.1 = some c ∧
    ofSpec path c listing.2.2 = .ok e.2

/-- `specFields` sets the fields of a section one after the other. -/
private theorem specFields_eq_ok {path heading : String} {c : Cardinality} {specs : Json.Members}
    (hc : Cardinality.ofSection? heading = some c) {shape result : Shape}
    (h : specFields path c specs shape = .ok result) :
    ∃ nodes, List.Forall₂ ReadFrom (specs.map fun f => (f.1, heading, f.2)) nodes ∧
      result = nodes.foldl (fun l e => set l e.1 e.2) shape := by
  induction specs generalizing shape with
  | nil =>
    rw [specFields] at h
    cases h
    exact ⟨[], .nil, rfl⟩
  | cons f rest ih =>
    obtain ⟨name, spec⟩ := f
    rw [specFields] at h
    obtain ⟨node, hnode, hrest⟩ := exists_of_bind_eq_ok h
    obtain ⟨nodes, hnodes, rfl⟩ := ih hrest
    exact ⟨(name, node) :: nodes, .cons ⟨rfl, _, c, hc, hnode⟩ hnodes, rfl⟩

/-- `sections` sets the fields of a level one after the other, in the order of the listings. -/
theorem sections_eq_ok {path : String} {members : Json.Members} {shape result : Shape}
    (h : sections path members shape = .ok result) :
    ∃ nodes, List.Forall₂ ReadFrom (listings members) nodes ∧
      result = nodes.foldl (fun l e => set l e.1 e.2) shape := by
  induction members generalizing shape with
  | nil =>
    rw [sections] at h
    cases h
    exact ⟨[], .nil, rfl⟩
  | cons m rest ih =>
    obtain ⟨heading, value⟩ := m
    have hlistings : listings ((heading, value) :: rest) =
        (if heading = "required" ∨ heading = "optional" then
          (value.members?.getD []).map fun f => (f.1, heading, f.2) else []) ++ listings rest :=
      List.flatMap_cons
    unfold sections at h
    rw [hlistings]
    -- the cases of `sections`: no section, a mapping of fields, nothing, and what is refused
    split at h
    · next hc =>
      rw [if_neg (ofSection?_eq_none hc)]
      exact ih h
    · next c specs hc =>
      obtain ⟨shape', hspecs, hrest⟩ := exists_of_bind_eq_ok h
      obtain ⟨nodes, hnodes, rfl⟩ := specFields_eq_ok hc hspecs
      obtain ⟨nodes', hnodes', rfl⟩ := ih hrest
      rw [if_pos (ofSection?_eq_some hc)]
      exact ⟨nodes ++ nodes', List.rel_append hnodes hnodes', (List.foldl_append).symm⟩
    · -- an empty section lists nothing
      rw [show (Json.null.members?.getD []) = [] from rfl, List.map_nil, ite_self]
      exact ih h
    · cases h

/-- `sections` finds no fields in a level without sections. -/
private theorem sections_of_not_hasSections {members : Json.Members}
    (h : hasSections members = false) (path : String) (shape : Shape) :
    sections path members shape = .ok shape := by
  induction members with
  | nil => rw [sections]
  | cons m rest ih =>
    obtain ⟨heading, value⟩ := m
    have hheading : Cardinality.ofSection? heading = none := by
      cases hc : Cardinality.ofSection? heading with
      | none => rfl
      | some c =>
        rcases ofSection?_eq_some hc with rfl | rfl <;> simp [hasSections, has, find?] at h
    have hrest : hasSections rest = false := by
      rw [hasSections, ← List.singleton_append, has_append, has_append] at h
      rw [hasSections]
      simp only [Bool.or_eq_false_iff] at h ⊢
      exact ⟨h.1.2, h.2.2⟩
    unfold sections
    rw [hheading]
    exact ih hrest

/-- The nodes have the names of the listings. -/
private theorem names_of_readFrom {ls : List (String × String × Json)}
    {nodes : List (String × SchemaNode)} (h : List.Forall₂ ReadFrom ls nodes) :
    names nodes = names ls := by
  induction h with
  | nil => rfl
  | cons hread _ ih => rw [names_cons, names_cons, hread.1, ih]

/-- The first listing with a name is that of the node with the name. -/
private theorem find?_of_readFrom {ls : List (String × String × Json)}
    {nodes : List (String × SchemaNode)}
    (h : List.Forall₂ ReadFrom ls nodes) {name : String} {node : SchemaNode}
    (hnode : find? nodes name = some node) :
    ∃ heading spec, find? ls name = some (heading, spec) ∧
      ReadFrom (name, heading, spec) (name, node) := by
  induction h with
  | nil => cases hnode
  | @cons l e ls nodes hread _ ih =>
    obtain ⟨name', heading, spec⟩ := l
    obtain ⟨name'', node'⟩ := e
    obtain ⟨rfl, hspec⟩ := hread
    rw [find?] at hnode ⊢
    split at hnode
    · next heq =>
      cases hnode
      rw [if_pos heq]
      exact ⟨heading, spec, rfl, rfl, hspec⟩
    · next hne =>
      rw [if_neg hne]
      exact ih hnode

/-- The specs of a level are smaller than it. -/
private theorem sizeOf_lt_of_mem_listings {members : Json.Members} {l : String × String × Json}
    (h : l ∈ listings members) : sizeOf l.2.2 < sizeOf members := by
  obtain ⟨⟨heading, value⟩, hm, hl⟩ := List.mem_flatMap.mp h
  have hsize := List.sizeOf_lt_of_mem hm
  split at hl
  · obtain ⟨⟨name, spec⟩, hf, rfl⟩ := List.mem_map.mp hl
    -- a spec stands in a section, which stands in the level
    have hsize' := List.sizeOf_lt_of_mem hf
    cases value with
    | obj specs =>
      simp only [Json.members?, Option.getD_some, Prod.mk.sizeOf_spec, Json.obj.sizeOf_spec]
        at hsize hsize'
      show sizeOf spec < sizeOf members
      omega
    | _ => cases hf
  · cases hl

/-- All specs below a size give nodes as declared, whether they describe a field or an element. -/
def DeclaresBelow (size : Nat) : Prop :=
  ∀ s : Source, sizeOf s.value < size → s.isLevel = false →
    ∀ path c node, (c.least, c.largest) = s.bounds → ofSpec path c s.value = .ok node →
      Declares s node

private theorem DeclaresBelow.mono {m n : Nat} (h : DeclaresBelow n) (hle : m ≤ n) :
    DeclaresBelow m :=
  fun s hs => h s (Nat.lt_of_lt_of_le hs hle)

/-- The bounds of a field are told by its section. -/
private theorem bounds_field {heading : String} {c : Cardinality}
    (h : Cardinality.ofSection? heading = some c) (spec : Json) :
    (c.least, c.largest) = (Source.field heading spec).bounds := by
  rcases ofSection?_eq_some h with rfl | rfl <;> cases h <;> rfl

/-- The fields that `sections` reads are those that the level lists. -/
theorem declares_sections {members : Json.Members} (ih : DeclaresBelow (sizeOf members))
    {path : String} {fields : Shape} (h : sections path members [] = .ok fields) :
    ListsFields members fields ∧ DeclaresAll members fields := by
  obtain ⟨nodes, hnodes, rfl⟩ := sections_eq_ok h
  have horder : names (ofList nodes) = names (firsts (listings members)) := by
    rw [names_ofList, names_firsts_congr (names_of_readFrom hnodes)]
  have hdistinct : (names (ofList nodes)).Nodup := by
    rw [horder]
    exact nodup_names_firsts _
  refine ⟨⟨hdistinct, horder⟩, declaresAll_iff.mpr ?_⟩
  rintro ⟨name, node⟩ hmem
  -- the field that is left under a name is the last one that was set
  have hfound := find?_of_mem_of_nodup hdistinct hmem
  rw [find?_ofList] at hfound
  obtain ⟨heading, spec, hlast, -, path', c, hc, hspec⟩ :=
    find?_of_readFrom (List.forall₂_reverse_iff.mpr hnodes) hfound
  refine ⟨heading, spec, hlast, ih (.field heading spec) ?_ rfl path' c node ?_ hspec⟩
  · have hmem : (name, heading, spec) ∈ listings members := List.mem_reverse.mp (mem_of_find? hlast)
    exact sizeOf_lt_of_mem_listings hmem
  · exact bounds_field hc spec

/-! ## Reading a spec -/

/-- A node without further information has no default. -/
private theorem describes_bare {s : Source} {c : Cardinality} (hc : (c.least, c.largest) = s.bounds)
    (hdefault : s.default? = none) (normal : Json → Json) : Describes s (.bare c) normal :=
  ⟨hc, hdefault.symm, rfl⟩

/-- `infoOf` takes the default from the spec. -/
private theorem describes_infoOf {s : Source} (hlevel : s.isLevel = false) {members : Json.Members}
    (hvalue : s.value = .obj members) {c : Cardinality} (hc : (c.least, c.largest) = s.bounds)
    (normal : Json → Json) : Describes s (infoOf members c normal) normal where
  bounds := hc
  sourceDefault := by
    rw [Source.default?, hlevel, Source.members, hvalue]
    rfl
  default := rfl

/-- `ofTypeName` is what a name alone declares of the elements. -/
private theorem declares_ofTypeName (name : String) :
    Declares (.element (some (.str name))) (ofTypeName name (.bare .unspecified)) := by
  have hbare (normal : Json → Json) :
      Describes (.element (some (.str name))) (.bare .unspecified) normal :=
    describes_bare rfl rfl normal
  rw [ofTypeName]
  split
  · rw [Declares, Declares]
    exact ⟨hbare _, describes_bare rfl rfl _⟩
  · split
    · rw [Declares, DeclaresAll]
      exact ⟨hbare _, ⟨List.nodup_nil, rfl⟩, trivial⟩
    · rw [Declares]
      exact hbare _

/-- `elementOf` is what the entry type of a sequence declares. -/
private theorem declares_elementOf {members : Json.Members} (ih : DeclaresBelow (sizeOf members))
    {path : String} {element : SchemaNode} (h : elementOf path members = .ok element) :
    Declares (.element (find? members "entry_type")) element := by
  rw [elementOf] at h
  split at h
  · -- without an entry type, as with null, an element may be anything
    next hentry =>
    cases h
    rw [hentry, Declares]
    exact describes_bare rfl rfl _
  · next hentry =>
    cases h
    rw [hentry, Declares]
    exact describes_bare rfl rfl _
  · next name hentry =>
    cases h
    rw [hentry]
    exact declares_ofTypeName name
  · next entry _ _ hentry =>
    have hsize : sizeOf entry < sizeOf members := sizeOf_lt_of_find? hentry
    rw [hentry]
    split at h
    · next hlevel =>
      obtain ⟨fields, hfields, hobject⟩ := exists_of_bind_eq_ok h
      cases hobject
      cases entry with
      | obj inner =>
        -- the entry type lists the fields itself, and has no default
        have hsource : Source.isLevel (.element (some (.obj inner))) = true := hlevel
        have hinner : Source.level (.element (some (.obj inner))) = inner := by
          rw [Source.level, if_pos hsource]
          rfl
        simp only [Json.obj.sizeOf_spec] at hsize
        rw [ofLevel] at hfields
        rw [Declares, hinner]
        refine ⟨describes_bare rfl ?_ _, declares_sections (ih.mono (by omega)) hfields⟩
        rw [Source.default?, if_pos hsource]
      | _ => cases hlevel
    · next hlevel =>
      rw [Bool.not_eq_true] at hlevel
      exact ih (.element (some entry)) hsize hlevel _ _ element rfl h

/-- The level of a spec is not larger than the spec. -/
private theorem sizeOf_levelOf_le (members : Json.Members) :
    sizeOf (levelOf members) ≤ sizeOf members := by
  unfold levelOf
  split
  · next name entry _ hentry =>
    have hsize : sizeOf (Json.obj entry) < sizeOf members := sizeOf_lt_of_find? hentry
    simp only [Json.obj.sizeOf_spec] at hsize
    split <;> omega
  · exact Nat.le_refl _

/-- `objectOf` reads the sections of the level of a dictionary. -/
private theorem objectOf_eq {members : Json.Members} {name : String}
    (htype : find? members "type" = some (.str name)) (hname : name = "dict" ∨ name = "object")
    (path : String) : objectOf path members = sections path (levelOf members) [] := by
  -- without sections there are no fields either way
  have hown : (if hasSections members then sections path members [] else .ok []) =
      sections path members [] := by
    split
    · rfl
    · next h => rw [sections_of_not_hasSections (Bool.not_eq_true _ ▸ h)]
  rw [objectOf, levelOf, htype]
  split
  · next entry hentry =>
    rw [hentry, hown]
    dsimp only
    split
    · next h => rw [if_pos ⟨hname, h⟩]
    · next h => rw [if_neg (fun hand => h hand.2)]
  · next hentry =>
    rw [hown]
    split
    · next name' entry' htype' hentry' => exact absurd hentry' (hentry entry')
    · rfl

/-- An object has the fields of the level that its spec describes. -/
private theorem declares_object {s : Source} (hlevel : s.isLevel = false) {members : Json.Members}
    (hvalue : s.value = .obj members) (ih : DeclaresBelow (sizeOf members)) {c : Cardinality}
    (hc : (c.least, c.largest) = s.bounds) {path : String} {fields : Shape}
    (hfields : sections path (levelOf members) [] = .ok fields) :
    Declares s (.object (infoOf members c fun _ => .obj []) fields) := by
  have hlevelOf : s.level = levelOf members := by
    rw [Source.level, hlevel, if_neg Bool.false_ne_true, Source.members, hvalue]
    rfl
  rw [Declares, hlevelOf]
  exact ⟨describes_infoOf hlevel hvalue hc _,
    declares_sections (ih.mono (sizeOf_levelOf_le members)) hfields⟩

/-- A node that `ofSpec` reads is as the spec declares it. -/
theorem declares_ofSpec {s : Source} (hlevel : s.isLevel = false) {path : String} {c : Cardinality}
    {node : SchemaNode} (hc : (c.least, c.largest) = s.bounds)
    (h : ofSpec path c s.value = .ok node) : Declares s node := by
  -- the specs below are smaller, so the statement is known of them
  have ih : DeclaresBelow (sizeOf s.value) :=
    fun s' _ hlevel' _ _ _ hc' h' => declares_ofSpec hlevel' hc' h'
  generalize hvalue : s.value = value at h ih
  unfold ofSpec at h
  split at h
  · -- the name of a type, without a default
    cases h
    rw [Declares]
    refine describes_bare hc ?_ _
    rw [Source.default?, hlevel, Source.members, hvalue]
    rfl
  · next members =>
    replace ih : DeclaresBelow (sizeOf members) := by
      simp only [Json.obj.sizeOf_spec] at ih
      exact ih.mono (by omega)
    split at h
    · next name htype =>
      split at h
      · -- a sequence, whose elements have a source of their own
        obtain ⟨element, helement, hsequence⟩ := exists_of_bind_eq_ok h
        cases hsequence
        have hentry : s.entry = .element (find? members "entry_type") := by
          rw [Source.entry, Source.members, hvalue]
          rfl
        rw [Declares, hentry]
        exact ⟨describes_infoOf hlevel hvalue hc _, declares_elementOf ih helement⟩
      · split at h
        · next hname =>
          -- a dictionary, whose fields may be those of its entry type
          obtain ⟨fields, hfields, hnode⟩ := exists_of_bind_eq_ok h
          cases hnode
          rw [objectOf_eq htype hname] at hfields
          exact declares_object hlevel hvalue ih hc hfields
        · cases h
          rw [Declares]
          exact describes_infoOf hlevel hvalue hc _
    · cases h
    · next htype =>
      -- without a type the spec is an object if it has sections, and a scalar otherwise
      split at h
      · obtain ⟨fields, hfields, hnode⟩ := exists_of_bind_eq_ok h
        cases hnode
        have hown : levelOf members = members := by rw [levelOf, htype]
        rw [← hown] at hfields
        exact declares_object hlevel hvalue ih hc hfields
      · cases h
        rw [Declares]
        exact describes_infoOf hlevel hvalue hc _
  · cases h
termination_by sizeOf s.value

/-- A level that `ofLevel` reads is as its sections declare it. -/
private theorem declares_ofLevel {value : Json} {path : String} {shape : Shape}
    (h : ofLevel path value = .ok shape) :
    ∃ members, value = .obj members ∧ ListsFields members shape ∧ DeclaresAll members shape := by
  unfold ofLevel at h
  split at h
  · next members =>
    refine ⟨members, rfl, declares_sections ?_ h⟩
    exact fun s _ hlevel _ _ _ hc h' => declares_ofSpec hlevel hc h'
  · cases h

/-! ## Distinct names -/

mutual

/-- No level of a node that is as its source declares it has two fields of one name. -/
private theorem distinct_of_declares :
    ∀ (node : SchemaNode) {s : Source}, Declares s node → node.distinct
  | scalar _ _, _, _ => rfl
  | sequence _ element, _, h => by
    rw [Declares] at h
    rw [distinct]
    exact distinct_of_declares element h.2
  | object _ fields, _, h => by
    rw [Declares] at h
    rw [distinct, Bool.and_eq_true, decide_eq_true_iff]
    exact ⟨h.2.1.distinct, fieldsDistinct_of_declaresAll fields h.2.2⟩

private theorem fieldsDistinct_of_declaresAll :
    ∀ (fields : List (String × SchemaNode)) {members : Json.Members},
      DeclaresAll members fields → fieldsDistinct fields
  | [], _, _ => rfl
  | (_, field) :: rest, _, h => by
    rw [DeclaresAll] at h
    obtain ⟨⟨_, _, -, hfield⟩, hrest⟩ := h
    rw [fieldsDistinct, Bool.and_eq_true]
    exact ⟨distinct_of_declares field hfield, fieldsDistinct_of_declaresAll rest hrest⟩

end

end SchemaNode

/-- The level that `Shape.ofSections` reads is distinct at every depth, even where the sections
repeat a name. -/
theorem Shape.distinct_ofSections {value : Json} {path : String} {shape : Shape}
    (h : Shape.ofSections value path = .ok shape) : shape.distinct := by
  obtain ⟨members, -, hnames, hfields⟩ := SchemaNode.declares_ofLevel h
  rw [distinct, Bool.and_eq_true, decide_eq_true_iff]
  exact ⟨hnames.distinct, SchemaNode.fieldsDistinct_of_declaresAll shape hfields⟩

/-- All levels of a schema that `Schemata.ofDocument` reads are distinct. -/
theorem Schemata.distinct_ofDocument {document : Json} {s : Schemata}
    (h : Schemata.ofDocument document = .ok s) :
    s.extension.distinct ∧ s.primitive.distinct ∧ s.primitiveClass.distinct := by
  obtain ⟨_, -, h⟩ := SchemaNode.exists_of_bind_eq_ok h
  obtain ⟨_, -, h⟩ := SchemaNode.exists_of_bind_eq_ok h
  obtain ⟨_, -, h⟩ := SchemaNode.exists_of_bind_eq_ok h
  obtain ⟨extension, hextension, h⟩ := SchemaNode.exists_of_bind_eq_ok h
  obtain ⟨primitive, hprimitive, h⟩ := SchemaNode.exists_of_bind_eq_ok h
  obtain ⟨primitiveClass, hclass, h⟩ := SchemaNode.exists_of_bind_eq_ok h
  cases h
  exact ⟨Shape.distinct_ofSections hextension, Shape.distinct_ofSections hprimitive,
    Shape.distinct_ofSections hclass⟩

open SchemaNode in
/-- A level that is read from its sections is as they declare it, at every depth. The names of the
fields of a level are distinct and in the order in which the sections list them first. A field that
is listed last in `required` appears exactly once, one that is listed last in `optional` at most
once, and no number is given for the elements of a sequence. A node has a default exactly if its
source has one: the same for scalars, an empty one for sequences and objects. -/
theorem Shape.declares_ofSections {value : Json} {path : String} {shape : Shape}
    (h : Shape.ofSections value path = .ok shape) :
    ∃ members, value = .obj members ∧ ListsFields members shape ∧ DeclaresAll members shape := by
  rw [Shape.ofSections] at h
  exact declares_ofLevel h

/-- A level whose field `ctype` is listed in both sections, the last time as required. -/
def kernelSource : Json :=
  .obj [
    ("optional", .obj [
      ("ctype", .obj [("type", .str "str"), ("default", .str "int")]),
      ("flags", .obj [("type", .str "list"), ("default", .arr [.str "sse"]),
        ("entry_type", .obj [("required", .obj [("name", .null)])])])]),
    ("required", .obj [("id", .null), ("ctype", .null)])]

/-- The fields that `kernelSource` declares. -/
def kernelShape : Shape :=
  [("ctype", .scalar (.bare .required) .any),
    ("flags", .sequence ⟨.optional, false, none, some (.arr []), some (.arr [.str "sse"]), []⟩
      (.object (.bare .unspecified) [("name", .scalar (.bare .required) .any)])),
    ("id", .scalar (.bare .required) .any)]

open SchemaNode in
/-- The field `ctype` keeps its first place and has its last spec, without a default. -/
theorem Shape.declares_kernelShape :
    Shape.ofSections kernelSource "primitive" = .ok kernelShape ∧
      ∃ members, kernelSource = .obj members ∧ ListsFields members kernelShape ∧
        DeclaresAll members kernelShape := by
  have h : Shape.ofSections kernelSource "primitive" = .ok kernelShape := by
    simp [Shape.ofSections, kernelSource, kernelShape, ofLevel, sections, specFields, ofSpec,
      elementOf, infoOf, Cardinality.ofSection?, Assoc.find?, Assoc.set, Assoc.has, isLevel,
      hasSections, bind, Except.bind, pure, Except.pure]
  exact ⟨h, Shape.declares_ofSections h⟩

end PrimitiveDesk
