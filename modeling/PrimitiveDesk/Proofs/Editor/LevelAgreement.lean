import PrimitiveDesk.Editor.Navigation
import PrimitiveDesk.Proofs.Editor.FindingSites
import PrimitiveDesk.Proofs.Schema.DistinctNames

/-!
# One level for one place

A check of a document and the search for a level by keys follow a schema on their own. Here both are
compared along the paths of a document: a path leads to a node of the document (`Node.at?`), to a
node of the schema (`SchemaNode.Leads`), and, as a chain of keys with the closest first, to a level
(`Shape.navigate?`).

The keys of a route lead to the level that the route reaches (`Finding.Reaches.follow?`), and those
of a path lead to the schema node of the path (`SchemaNode.Leads.follow?`). A check follows every
path that leads to an object (`SchemaNode.Leads.exists_reaches`).
-/

namespace PrimitiveDesk

open Yaml Finding

/-! ## Paths -/

/-- A step of a path in a document. -/
inductive PathStep where
  | key (name : String)
  | item (index : Nat)
deriving DecidableEq, Repr

namespace PathStep

/-- The key that stands for a step among the keys that enclose the cursor. -/
def link : PathStep → String
  | key name => name
  | item _ => Layout.itemsKey

/-- The chain of keys of a path, closest first. -/
def chain (path : List PathStep) : List String :=
  (path.map link).reverse

end PathStep

open PathStep (link chain)

/-- The node that a path leads to. -/
def Yaml.Node.at? : Node → List PathStep → Option Node
  | n, [] => some n
  | n, .key name :: path => (n.get? name).bind (at? · path)
  | n, .item j :: path => (n.items?.bind (·[j]?)).bind (at? · path)

/-- The schema node that a path leads to: its keys are fields of objects, its items are entries of a
sequence whose elements are objects. -/
inductive SchemaNode.Leads : SchemaNode → List PathStep → SchemaNode → Prop
  | here (field : SchemaNode) : Leads field [] field
  | key {outer field target : SchemaNode} {level : Shape} {name : String} {path : List PathStep}
    (hlevel : outer.shape? = some level) (hfield : (name, field) ∈ level)
    (hpath : Leads field path target) : Leads outer (.key name :: path) target
  | item {outer element target : SchemaNode} {level : Shape} {j : Nat} {path : List PathStep}
    (helement : outer.element? = some element) (hlevel : element.shape? = some level)
    (hpath : Leads element path target) : Leads outer (.item j :: path) target

/-- The schema node that a path leads to from the root of a schema. -/
def Shape.Leads (shape : Shape) (path : List PathStep) (target : SchemaNode) : Prop :=
  (SchemaNode.object (.bare .unspecified) shape).Leads path target

namespace Finding

/-- The part of a path that a step of a route covers. -/
def Step.path (s : Step) : List PathStep :=
  .key s.name :: (s.item?.map PathStep.item).toList

/-- A check of the document `root` checks the node `n`, to which the path leads, by the given
level. -/
def Checks (root : Node) (shape : Shape) (path : List PathStep) (n : Node) (level : Shape) : Prop :=
  ∃ route : List Step, route.flatMap Step.path = path ∧ Reaches root shape route n level

end Finding

/-! ## Levels along a path -/

namespace Level

/-- `inside?` of an object gives its fields. -/
private theorem inside?_of_shape? {field : SchemaNode} {shape : Shape}
    (h : field.shape? = some shape) (key : String) : inside? key field = some (.fields shape) := by
  cases field with
  | scalar info type => cases h
  | sequence info element => cases h
  | object info fields => cases h; rfl

/-- `inside?` of a sequence gives its element, under the key of the sequence. -/
private theorem inside?_of_element? {field element : SchemaNode} (h : field.element? = some element)
    (key : String) : inside? key field = some (.sequence key element) := by
  cases field with
  | scalar info type => cases h
  | object info fields => cases h
  | sequence info element' => cases h; rfl

/-- `inside?` gives fields for objects only. -/
private theorem inside?_eq_fields_iff {field : SchemaNode} {shape : Shape} {key : String} :
    inside? key field = some (.fields shape) ↔ field.shape? = some shape := by
  cases field <;> simp [inside?, SchemaNode.shape?]

/-- `follow?` along two chains is `follow?` along the second from where the first leads. -/
private theorem follow?_append (level : Level) (xs ys : List String) :
    level.follow? (xs ++ ys) = (level.follow? xs).bind (follow? · ys) := by
  induction xs generalizing level with
  | nil => rfl
  | cons key xs ih =>
    rw [List.cons_append, follow?, follow?]
    cases level.step? key with
    | none => rfl
    | some next => exact ih next

/-- From the fields of a level, `step?` with a name leads into the field of that name. -/
private theorem step?_fields {shape : Shape} (h : shape.distinct) {name : String}
    {field : SchemaNode} (hmem : (name, field) ∈ shape) :
    (Level.fields shape).step? name = inside? name field := by
  rw [step?, Shape.find?_of_mem h hmem, Option.bind_some]

/-- From a sequence, `step?` with the key for entries leads into its element. -/
private theorem step?_sequence (key : String) (element : SchemaNode) :
    (Level.sequence key element).step? Layout.itemsKey = inside? key element := by
  rw [step?, if_pos rfl]

end Level

open Level

/-- `navigate?` follows the chain of a path from the root down. -/
private theorem navigate?_chain (shape : Shape) (path : List PathStep) :
    shape.navigate? (chain path) = (Level.fields shape).follow? (path.map link) := by
  rw [Shape.navigate?, chain, List.reverse_reverse]

namespace Finding

/-- The keys of one step lead to the level below. -/
private theorem Below.follow? {n m : Node} {level nested : Shape} {s : Step}
    (h : Below n level s m nested) (hdistinct : level.distinct) :
    (Level.fields level).follow? (s.path.map link) = some (.fields nested) ∧ nested.distinct := by
  obtain ⟨hfield, hvalue, hinside⟩ := h
  have hmem := List.mem_of_getElem? hfield
  have hfield := Shape.distinct_of_mem hdistinct hmem
  -- an object takes one key, an entry of a sequence two
  cases hinside with
  | object hshape =>
    refine ⟨?_, Shape.distinct_of_shape? hfield hshape⟩
    simp only [Step.path, Option.map_none, Option.toList_none, List.map_cons, List.map_nil, link,
      Level.follow?, step?_fields hdistinct hmem, inside?_of_shape? hshape, Option.bind_some]
  | entry helement =>
    obtain ⟨element, hsequence, hshape⟩ := Option.bind_eq_some_iff.mp helement
    refine ⟨?_, Shape.distinct_of_shape? (SchemaNode.distinct_of_element? hfield hsequence) hshape⟩
    simp only [Step.path, Option.map_some, Option.toList_some, List.map_cons, List.map_nil, link,
      Level.follow?, step?_fields hdistinct hmem, inside?_of_element? hsequence, step?_sequence,
      inside?_of_shape? hshape, Option.bind_some]

/-- The keys of a route lead to the level that the route reaches. -/
theorem Reaches.follow? {n m : Node} {level nested : Shape} {route : List Step}
    (h : Reaches n level route m nested) (hdistinct : level.distinct) :
    (Level.fields level).follow? ((route.flatMap Step.path).map link) = some (.fields nested) := by
  induction h with
  | here n level => rfl
  | step hstep _ ih =>
    obtain ⟨hfollow, hnested⟩ := hstep.follow? hdistinct
    rw [List.flatMap_cons, List.map_append, follow?_append, hfollow, Option.bind_some, ih hnested]

/-- The path of one step leads to the node below. -/
private theorem Below.at? {n m : Node} {level nested : Shape} {s : Step}
    (h : Below n level s m nested) (path : List PathStep) :
    n.at? (s.path ++ path) = m.at? path := by
  obtain ⟨hfield, hvalue, hinside⟩ := h
  cases hinside with
  | object hshape => simp [Step.path, Node.at?, hvalue]
  | entry helement hitems hitem => simp [Step.path, Node.at?, hvalue, hitems, hitem]

/-- The path of a route leads to the node that the route reaches. -/
theorem Reaches.at? {n m : Node} {level nested : Shape} {route : List Step}
    (h : Reaches n level route m nested) : n.at? (route.flatMap Step.path) = some m := by
  induction h with
  | here n level => rfl
  | step hstep _ ih => rw [List.flatMap_cons, hstep.at?, ih]

end Finding

namespace SchemaNode.Leads

/-- The keys of a path lead into the schema node that the path leads to. -/
theorem follow? {field target : SchemaNode} {path : List PathStep} (h : field.Leads path target)
    (hdistinct : field.distinct) (key : String) :
    ∃ key', (inside? key field).bind (Level.follow? · (path.map link)) = inside? key' target := by
  -- the key that `inside?` is given is remembered by sequences only, so it changes along the path
  induction h generalizing key with
  | here field => exact ⟨key, by cases inside? key field <;> rfl⟩
  | @key outer field target level name path hlevel hfield _ ih =>
    have hd := Shape.distinct_of_shape? hdistinct hlevel
    obtain ⟨key', hkey'⟩ := ih (Shape.distinct_of_mem hd hfield) name
    refine ⟨key', ?_⟩
    rw [inside?_of_shape? hlevel, Option.bind_some, List.map_cons, Level.follow?, link,
      step?_fields hd hfield, hkey']
  | @item outer element target level j path helement hlevel _ ih =>
    obtain ⟨key', hkey'⟩ := ih (SchemaNode.distinct_of_element? hdistinct helement) key
    refine ⟨key', ?_⟩
    rw [inside?_of_element? helement, Option.bind_some, List.map_cons, Level.follow?, link,
      step?_sequence, hkey']

/-- A check goes on along every path that leads to an object in the schema and to a node of the
document. -/
theorem exists_reaches {field target : SchemaNode} {path : List PathStep}
    (h : field.Leads path target) {level : Shape} (htarget : target.shape? = some level)
    {value n : Node} (hn : value.at? path = some n) :
    ∃ item? m nested route, Inside field value item? m nested ∧
      path = (item?.map PathStep.item).toList ++ route.flatMap Step.path ∧
      Reaches m nested route n level := by
  induction h generalizing value with
  | here field =>
    rw [Node.at?, Option.some.injEq] at hn
    subst hn
    exact ⟨none, value, level, [], .object htarget, rfl, .here value level⟩
  | @key outer field target inner name path hlevel hfield _ ih =>
    rw [Node.at?, Option.bind_eq_some_iff] at hn
    obtain ⟨v, hv, hn⟩ := hn
    obtain ⟨item?, m, nested, route, hinside, hpath, hroute⟩ := ih htarget hn
    obtain ⟨i, hi⟩ := List.mem_iff_getElem?.mp hfield
    refine ⟨none, value, inner, ⟨i, name, item?⟩ :: route, .object hlevel, ?_,
      .step (.intro hi hv hinside) hroute⟩
    rw [hpath, List.flatMap_cons]
    rfl
  | @item outer element target inner j path helement hlevel _ ih =>
    rw [Node.at?, Option.bind_eq_some_iff] at hn
    obtain ⟨v, hv, hn⟩ := hn
    obtain ⟨items, hitems, hitem⟩ := Option.bind_eq_some_iff.mp hv
    obtain ⟨item?, m, nested, route, hinside, hpath, hroute⟩ := ih htarget hn
    -- the element is an object, so that the path goes on from the item itself
    cases hinside with
    | object hshape =>
      refine ⟨some j, v, nested, route, .entry ?_ hitems hitem, ?_, hroute⟩
      · rw [helement, Option.bind_some, hshape]
      · rw [hpath]
        rfl
    | entry hsequence =>
      obtain ⟨_, helement', -⟩ := Option.bind_eq_some_iff.mp hsequence
      cases element with
      | scalar info type => cases hlevel
      | sequence info element => cases hlevel
      | object info fields => cases helement'

end SchemaNode.Leads

/-! ## Agreement -/

/-- Every finding is about a field of the level by which a node is checked. -/
private theorem Finding.exists_checks {root : Node} {shape : Shape} {f : Finding}
    (hf : f ∈ ofLevel root shape) :
    ∃ (σ : Site) (level : Shape), σ.Reports f ∧ (σ.name, σ.field) ∈ level ∧
      Checks root shape (σ.route.flatMap Step.path) σ.mapping level := by
  obtain ⟨sites, -, hmem, hreports⟩ := lists_ofLevel root shape
  obtain ⟨σ, hσ, hσf⟩ := exists_of_mem_of_forall₂ hreports.flip hf
  obtain ⟨⟨level, hreaches, -, hfield⟩, -⟩ := (hmem σ).mp hσ
  exact ⟨σ, level, hσf, List.mem_of_getElem? hfield, σ.route, rfl, hreaches⟩

/-- A check and the search for a level agree. All findings are about nodes that are checked. A node
that is checked by a level stands at its path, all that is found about it is among the findings, and
the keys of the path lead to that level. Conversely, a path that leads to a node of the document and
to a node of the schema has a level of fields exactly if the schema node is an object, and then the
node is checked by that level. -/
theorem checks_navigate? {shape : Shape} (hshape : shape.distinct) (root : Node) :
    (∀ f ∈ ofLevel root shape, ∃ (σ : Site) (level : Shape), σ.Reports f ∧
      (σ.name, σ.field) ∈ level ∧
        Checks root shape (σ.route.flatMap Step.path) σ.mapping level) ∧
    (∀ path n level, Checks root shape path n level →
      root.at? path = some n ∧ ofLevel n level <:+: ofLevel root shape ∧
        shape.navigate? (chain path) = some (.fields level)) ∧
    (∀ path n target level, root.at? path = some n → shape.Leads path target →
      (shape.navigate? (chain path) = some (.fields level) ↔ target.shape? = some level) ∧
      (shape.navigate? (chain path) = some (.fields level) →
        Checks root shape path n level)) := by
  refine ⟨fun f hf => exists_checks hf, ?_, ?_⟩
  · rintro path n level ⟨route, rfl, hroute⟩
    refine ⟨hroute.at?, hroute.isInfix, ?_⟩
    rw [navigate?_chain, hroute.follow? hshape]
  · intro path n target level hn hleads
    -- the root counts as an object, whose key is of no account
    have hiff : shape.navigate? (chain path) = some (.fields level) ↔
        target.shape? = some level := by
      obtain ⟨key, hkey⟩ := hleads.follow? hshape ""
      rw [inside?_of_shape? rfl, Option.bind_some] at hkey
      rw [navigate?_chain, hkey, inside?_eq_fields_iff]
    refine ⟨hiff, fun hlevel => ?_⟩
    obtain ⟨item?, m, nested, route, hinside, hpath, hroute⟩ :=
      hleads.exists_reaches (hiff.mp hlevel) hn
    -- the root is an object
    cases hinside with
    | object hroot =>
      cases hroot
      exact ⟨route, hpath.symm, hroute⟩
    | entry hsequence => cases hsequence

/-- The level of an object field that asks for a name. -/
def labelLevel : Shape :=
  [("name", .scalar (.bare .required) .string)]

/-- A sequence of objects which have a field that is called like the entries of a sequence. -/
def crateShape : Shape :=
  [("crates", .sequence (.bare .optional)
    (.object (.bare .unspecified) [("items", .object (.bare .optional) labelLevel)]))]

/-- A mapping without a name. -/
def bareLabel : Node :=
  .mapping [(.plain "size" ⟨25, 29⟩, .plain "3" ⟨31, 32⟩)] ⟨25, 32⟩

/-- Two entries, the second of which holds the mapping without a name. -/
def crateDocument : Node :=
  .mapping [(.plain "crates" ⟨0, 6⟩,
    .sequence [.plain "" ⟨9, 9⟩, .mapping [(.plain "items" ⟨14, 19⟩, bareLabel)] ⟨14, 32⟩]
      ⟨8, 32⟩)] ⟨0, 32⟩

/-- The search for a level finds the object behind the second entry, and the check finds that its
name is missing. -/
theorem checks_bareLabel :
    crateShape.distinct ∧
      crateShape.navigate? ["items", "items", "crates"] = some (.fields labelLevel) ∧
      Checks crateDocument crateShape [.key "crates", .item 1, .key "items"] bareLabel labelLevel ∧
      ⟨.missingRequired "name", ⟨25, 26⟩⟩ ∈ ofLevel crateDocument crateShape := by
  have hdistinct : crateShape.distinct := by decide
  have hleads : crateShape.Leads [.key "crates", .item 1, .key "items"]
      (.object (.bare .optional) labelLevel) :=
    .key rfl List.mem_cons_self <| .item rfl rfl <| .key rfl List.mem_cons_self <| .here _
  obtain ⟨-, hof, hto⟩ := checks_navigate? hdistinct crateDocument
  obtain ⟨hiff, hchecks⟩ := hto _ bareLabel _ labelLevel rfl hleads
  have hlevel := hiff.mpr rfl
  have habsent : bareLabel.get? "name" = none := rfl
  have hmissing : ofLevel bareLabel labelLevel = [⟨.missingRequired "name", ⟨25, 26⟩⟩] := by
    rw [ofLevel_eq_flatMap rfl, labelLevel, List.flatMap_singleton, ofField, habsent]
    rfl
  refine ⟨hdistinct, hlevel, hchecks hlevel, ?_⟩
  apply (hof _ _ _ (hchecks hlevel)).2.1.subset
  rw [hmissing]
  exact List.mem_singleton_self _

end PrimitiveDesk
