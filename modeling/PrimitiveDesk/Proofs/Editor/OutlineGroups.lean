import Mathlib.Data.List.Forall2
import Mathlib.Data.List.Nodup
import PrimitiveDesk.Editor.Outline
import PrimitiveDesk.Proofs.Assoc.Firsts

/-!
# The namespaces of an outline

The fields of a primitive come in the order of its definitions, and `Outline.place` puts each into
the namespace of its extension. It either opens a namespace behind all others or lets one grow
(`Outline.place_cases`), so that after any number of fields the namespaces group all of them: none
is lost, none is there twice, and each namespace reaches exactly from the first to the last of its
fields (`Outline.Groups.foldl_place`).

What the definitions are and which extensions they list is said of the nodes of the document
(`Outline.HasDefinitions`, `Outline.Lists`). An extension that a definition lists twice has two
fields of that definition.
-/

namespace PrimitiveDesk

namespace Span

/-! ## Covering spans -/

/-- The span lies inside another one. -/
def IsInside (s t : Span) : Prop := t.start ≤ s.start ∧ s.stop ≤ t.stop

/-- The span is the smallest one that covers the given spans. -/
structure IsHull (s : Span) (spans : List Span) : Prop where
  covers : ∀ t ∈ spans, t.IsInside s
  least : ∀ u : Span, (∀ t ∈ spans, t.IsInside u) → s.IsInside u

private theorem isHull_singleton (s : Span) : s.IsHull [s] where
  covers := by
    intro t ht
    rw [List.mem_singleton.mp ht]
    exact ⟨Nat.le_refl _, Nat.le_refl _⟩
  least := by
    intro u hu
    exact hu s (List.mem_singleton_self s)

/-- `Span.cover` with one more span gives the smallest span again. -/
private theorem IsHull.concat {s : Span} {spans : List Span} (h : s.IsHull spans) (t : Span) :
    (s.cover t).IsHull (spans ++ [t]) where
  covers := by
    intro v hv
    rcases List.mem_append.mp hv with hv | hv
    · have hs := h.covers v hv
      simp only [IsInside, cover] at hs ⊢
      omega
    · rw [List.mem_singleton.mp hv]
      simp only [IsInside, cover]
      omega
  -- whatever covers all spans covers the old hull, which is the least, and the new span
  least := by
    intro u hu
    have hs := h.least u fun v hv => hu v (List.mem_append_left _ hv)
    have ht := hu t (List.mem_append_right _ (List.mem_singleton_self t))
    simp only [IsInside, cover] at hs ht ⊢
    omega

end Span

namespace Outline

/-! ## Placing a field -/

/-- The namespace of an extension with its first field. -/
def opened (extension : String) (field : Symbol) : Symbol :=
  .mk extension .target field.span [field]

/-- A namespace with one more field. -/
def grown (g field : Symbol) : Symbol :=
  .mk g.name g.kind (g.span.cover field.span) (g.children ++ [field])

/-- `place` opens a namespace behind all others, or lets the first one of the extension grow. -/
theorem place_cases (groups : List Symbol) (extension : String) (field : Symbol) :
    (extension ∉ groups.map Symbol.name ∧
        place groups (extension, field) = groups ++ [opened extension field]) ∨
      ∃ front g back, groups = front ++ g :: back ∧ g.name = extension ∧
        place groups (extension, field) = front ++ grown g field :: back := by
  induction groups with
  | nil => exact .inl ⟨List.not_mem_nil, rfl⟩
  | cons g groups ih =>
    rw [place]
    -- by induction on the namespaces, which `place` searches from the front
    by_cases hg : g.name = extension
    · exact .inr ⟨[], g, groups, rfl, hg, if_pos hg⟩
    · rw [if_neg hg]
      rcases ih with ⟨hnew, hplace⟩ | ⟨front, g', back, rfl, hname, hplace⟩
      · refine .inl ⟨?_, by rw [hplace, List.cons_append]⟩
        rw [List.map_cons, List.mem_cons, not_or]
        exact ⟨Ne.symm hg, hnew⟩
      · exact .inr ⟨g :: front, g', back, rfl, hname, by rw [hplace, List.cons_append]⟩

/-! ## What a namespace holds -/

/-- The fields of an extension among all fields. -/
def fieldsFor (entries : List (String × Symbol)) (extension : String) : List Symbol :=
  (entries.filter fun e => e.1 = extension).map (·.2)

/-- The fields of an extension come in the order of all fields. -/
private theorem fieldsFor_append (entries more : List (String × Symbol)) (extension : String) :
    fieldsFor (entries ++ more) extension =
      fieldsFor entries extension ++ fieldsFor more extension := by
  simp only [fieldsFor, List.filter_append, List.map_append]

/-- An extension that does not appear has no fields. -/
private theorem fieldsFor_of_not_mem {entries : List (String × Symbol)} {extension : String}
    (h : extension ∉ Assoc.names entries) : fieldsFor entries extension = [] := by
  have hnone : (entries.filter fun e => e.1 = extension) = [] := by
    rw [List.filter_eq_nil_iff]
    intro e he hname
    exact h (of_decide_eq_true hname ▸ List.mem_map_of_mem he)
  rw [fieldsFor, hnone, List.map_nil]

/-- The symbol is a namespace with all fields of its extension, in order, and reaches exactly over
them. -/
structure IsGroup (entries : List (String × Symbol)) (g : Symbol) : Prop where
  kind : g.kind = .target
  children : g.children = fieldsFor entries g.name
  span : g.span.IsHull (g.children.map Symbol.span)

variable {entries : List (String × Symbol)} {extension : String} {field : Symbol}

/-- A field of another extension does not change what belongs into a namespace. -/
private theorem IsGroup.skip {g : Symbol} (h : IsGroup entries g) (hne : g.name ≠ extension) :
    IsGroup (entries ++ [(extension, field)]) g where
  kind := h.kind
  children := by
    have hother : fieldsFor [(extension, field)] g.name = [] := by
      simp [fieldsFor, Ne.symm hne]
    rw [fieldsFor_append, hother, List.append_nil, h.children]
  span := h.span

/-- A namespace grows by a field of its extension. -/
private theorem IsGroup.grow {g : Symbol} (h : IsGroup entries g) (hname : g.name = extension) :
    IsGroup (entries ++ [(extension, field)]) (grown g field) where
  kind := h.kind
  children := by
    show g.children ++ [field] = fieldsFor (entries ++ [(extension, field)]) g.name
    have hown : fieldsFor [(extension, field)] g.name = [field] := by simp [fieldsFor, hname]
    rw [fieldsFor_append, hown, h.children]
  span := by
    show (g.span.cover field.span).IsHull ((g.children ++ [field]).map Symbol.span)
    rw [List.map_append]
    exact h.span.concat field.span

/-- The first field of an extension opens its namespace. -/
private theorem isGroup_opened (h : extension ∉ Assoc.names entries) :
    IsGroup (entries ++ [(extension, field)]) (opened extension field) where
  kind := rfl
  children := by
    show [field] = fieldsFor (entries ++ [(extension, field)]) extension
    rw [fieldsFor_append, fieldsFor_of_not_mem h]
    simp [fieldsFor]
  span := Span.isHull_singleton field.span

/-! ## All namespaces -/

/-- Names are in the order in which they appear first in a list. -/
def InOrderOf (all names : List String) : Prop :=
  names.Pairwise fun a b => all.idxOf a < all.idxOf b

/-- Names in order are distinct. -/
private theorem InOrderOf.nodup {all names : List String} (h : InOrderOf all names) : names.Nodup :=
  h.imp fun hlt heq => by rw [heq] at hlt; omega

/-- What comes later does not change the order of names that have appeared. -/
private theorem InOrderOf.append {all names : List String} (h : InOrderOf all names)
    (hmem : ∀ a ∈ names, a ∈ all) (more : List String) : InOrderOf (all ++ more) names :=
  h.imp_of_mem fun ha hb hlt => by
    rwa [List.idxOf_append, List.idxOf_append, if_pos (hmem _ ha), if_pos (hmem _ hb)]

/-- A name that appears for the first time comes behind all others. -/
private theorem InOrderOf.concat {all names : List String} (h : InOrderOf all names)
    (hmem : ∀ a ∈ names, a ∈ all) {name : String} (hnew : name ∉ all) :
    InOrderOf (all ++ [name]) (names ++ [name]) := by
  refine List.pairwise_append.mpr ⟨h.append hmem [name], List.pairwise_singleton _ name, ?_⟩
  intro a ha b hb
  have hlt : all.idxOf a < all.length := List.idxOf_lt_length_iff.mpr (hmem a ha)
  rw [List.mem_singleton.mp hb, List.idxOf_append, List.idxOf_append, if_pos (hmem a ha),
    if_neg hnew]
  omega

/-- The namespaces group all fields by their extensions, in the order in which the extensions appear
first. -/
structure Groups (entries : List (String × Symbol)) (groups : List Symbol) : Prop where
  named : ∀ e, e ∈ groups.map Symbol.name ↔ e ∈ Assoc.names entries
  inOrder : InOrderOf (Assoc.names entries) (groups.map Symbol.name)
  isGroup : ∀ g ∈ groups, IsGroup entries g

private theorem groups_nil : Groups [] [] := ⟨fun _ => Iff.rfl, List.Pairwise.nil, nofun⟩

private theorem names_concat (entries : List (String × Symbol)) (extension : String)
    (field : Symbol) :
    Assoc.names (entries ++ [(extension, field)]) = Assoc.names entries ++ [extension] :=
  Assoc.names_append _ _

/-- The first field of an extension opens a namespace behind all others. -/
private theorem Groups.concat_opened {groups : List Symbol} (h : Groups entries groups)
    (hnew : extension ∉ groups.map Symbol.name) (field : Symbol) :
    Groups (entries ++ [(extension, field)]) (groups ++ [opened extension field]) := by
  have hunseen : extension ∉ Assoc.names entries := fun hseen => hnew ((h.named _).mpr hseen)
  have hnames : (groups ++ [opened extension field]).map Symbol.name =
      groups.map Symbol.name ++ [extension] := List.map_append
  refine ⟨fun e => ?_, ?_, fun g hg => ?_⟩
  · rw [hnames, names_concat, List.mem_append, List.mem_append, h.named]
  · rw [hnames, names_concat]
    exact h.inOrder.concat (fun a => (h.named a).mp) hunseen
  · rcases List.mem_append.mp hg with hg | hg
    · have hne : g.name ≠ extension := fun heq => hnew (heq ▸ List.mem_map_of_mem hg)
      exact (h.isGroup g hg).skip hne
    · rw [List.mem_singleton.mp hg]
      exact isGroup_opened hunseen

/-- A later field lets the namespace of its extension grow, and no other one. -/
private theorem Groups.grow {front back : List Symbol} {g : Symbol}
    (h : Groups entries (front ++ g :: back)) (hname : g.name = extension) (field : Symbol) :
    Groups (entries ++ [(extension, field)]) (front ++ grown g field :: back) := by
  have hnames : (front ++ grown g field :: back).map Symbol.name =
      (front ++ g :: back).map Symbol.name := by simp [grown, Symbol.name]
  have hseen : extension ∈ Assoc.names entries := (h.named extension).mp (by simp [← hname])
  refine ⟨fun e => ?_, ?_, fun g' hg' => ?_⟩
  · rw [hnames, names_concat, h.named, List.mem_append, List.mem_singleton]
    exact ⟨.inl, fun he => he.elim id fun heq => heq ▸ hseen⟩
  · rw [hnames, names_concat]
    exact h.inOrder.append (fun a => (h.named a).mp) [extension]
  · -- the names are distinct, so that no other namespace has the name of the one that grows
    have hnodup := h.inOrder.nodup
    rw [List.map_append, List.map_cons, hname, List.nodup_middle, List.nodup_cons,
      ← List.map_append] at hnodup
    have hother (hmem : g' ∈ front ++ back) : IsGroup (entries ++ [(extension, field)]) g' := by
      have hne : g'.name ≠ extension := fun heq => hnodup.1 (heq ▸ List.mem_map_of_mem hmem)
      have hold : g' ∈ front ++ g :: back := by
        rw [List.mem_append, List.mem_cons]
        exact (List.mem_append.mp hmem).imp_right .inr
      exact (h.isGroup g' hold).skip hne
    rw [List.mem_append, List.mem_cons] at hg'
    rcases hg' with hg' | rfl | hg'
    · exact hother (List.mem_append_left _ hg')
    · exact (h.isGroup g (by simp)).grow hname
    · exact hother (List.mem_append_right _ hg')

/-- One field more, put into its namespace by `place`, keeps the groups. -/
theorem Groups.place {groups : List Symbol} (h : Groups entries groups) (e : String × Symbol) :
    Groups (entries ++ [e]) (Outline.place groups e) := by
  obtain ⟨extension, field⟩ := e
  obtain ⟨hnew, hplace⟩ | ⟨front, g, back, rfl, hname, hplace⟩ :=
    place_cases groups extension field
  · rw [hplace]
    exact h.concat_opened hnew field
  · rw [hplace]
    exact h.grow hname field

/-- Fields that `place` takes one after the other keep the groups. -/
theorem Groups.foldl_place {groups : List Symbol} (h : Groups entries groups)
    (more : List (String × Symbol)) :
    Groups (entries ++ more) (more.foldl Outline.place groups) := by
  induction more generalizing entries groups with
  | nil => rwa [List.append_nil]
  | cons e more ih =>
    have hstep := ih (h.place e)
    rwa [List.append_assoc, List.singleton_append] at hstep

/-! ## The definitions of a primitive -/

/-- The definitions of a document are the items of the sequence under its key `definitions`. Without
such a sequence there are none. -/
inductive HasDefinitions (d : Yaml.Document) : List Yaml.Node → Prop
  | items {items : List Yaml.Node} {span : Span}
    (h : d.get? "definitions" = some (.sequence items span)) : HasDefinitions d items
  | none (h : ∀ items span, d.get? "definitions" ≠ some (.sequence items span)) :
    HasDefinitions d []

/-- The strings among some nodes, in order: the texts of scalars that are not null. -/
inductive Strings : List Yaml.Node → List String → Prop
  | nil : Strings [] []
  | string {v : Yaml.Scalar} {span : Span} {nodes : List Yaml.Node} {texts : List String}
    (hv : v.isNull = false) (rest : Strings nodes texts) :
    Strings (.scalar v span :: nodes) (v.text :: texts)
  | other {n : Yaml.Node} {nodes : List Yaml.Node} {texts : List String}
    (hn : ∀ v span, n = .scalar v span → v.isNull = true) (rest : Strings nodes texts) :
    Strings (n :: nodes) texts

/-- What a definition lists under its key `target_extension`: the strings of a sequence, or one
string. -/
inductive Lists (definition : Yaml.Node) : List String → Prop
  | sequence {items : List Yaml.Node} {span : Span} {texts : List String}
    (h : definition.get? "target_extension" = some (.sequence items span))
    (hitems : Strings items texts) : Lists definition texts
  | single {n : Yaml.Node} {texts : List String}
    (h : definition.get? "target_extension" = some n) (hn : ∀ items span, n ≠ .sequence items span)
    (hself : Strings [n] texts) : Lists definition texts
  | absent (h : definition.get? "target_extension" = none) : Lists definition []

/-- `definitionsOf` gives the items of `definitions`. -/
private theorem hasDefinitions_definitionsOf (d : Yaml.Document) :
    HasDefinitions d (definitionsOf d) := by
  unfold definitionsOf definitionsKey
  cases hget : d.get? "definitions" with
  | none => exact .none (by simp [hget])
  | some n =>
    cases n with
    | sequence items span => exact .items hget
    | _ => exact .none (by simp [hget])

/-- `str?` picks the strings among some nodes. -/
private theorem strings_filterMap_str? (nodes : List Yaml.Node) :
    Strings nodes (nodes.filterMap Yaml.Node.str?) := by
  induction nodes with
  | nil => exact .nil
  | cons n nodes ih =>
    cases hn : n.str? with
    | none =>
      rw [List.filterMap_cons_none hn]
      refine .other ?_ ih
      rintro v span rfl
      simpa [Yaml.Node.str?] using hn
    | some text =>
      rw [List.filterMap_cons_some hn]
      cases n with
      | scalar v span =>
        simp only [Yaml.Node.str?, Option.ite_none_left_eq_some, Option.some.injEq,
          Bool.not_eq_true] at hn
        exact hn.2 ▸ .string hn.1 ih
      | sequence items span => cases hn
      | mapping entries span => cases hn

/-- `stringsAt` gives what a definition lists. -/
private theorem lists_stringsAt (definition : Yaml.Node) :
    Lists definition (stringsAt definition "target_extension") := by
  unfold stringsAt
  cases hget : definition.get? "target_extension" with
  | none => exact .absent hget
  | some n =>
    cases n with
    | sequence items span => exact .sequence hget (strings_filterMap_str? items)
    | scalar v span =>
      refine .single hget nofun ?_
      have hself := strings_filterMap_str? [.scalar v span]
      cases hstr : (Yaml.Node.scalar v span).str? <;>
        simpa [Yaml.Node.stringList, List.filterMap_cons, hstr] using hself
    | mapping entries span => exact .single hget nofun (.other nofun .nil)

/-- The field of a definition. -/
def fieldOf (definition : Yaml.Node) : Symbol :=
  .mk (definitionLabel definition) .definition definition.span []

/-- A definition with the extensions that it lists. -/
abbrev Listing := Yaml.Node × List String

/-- The fields of `definitionFields` are those of what the definition lists. -/
private theorem definitionFields_eq (definition : Yaml.Node) :
    definitionFields definition =
      (stringsAt definition "target_extension").map fun e => (e, fieldOf definition) := rfl

/-- The fields of a listing, one for each time that it lists an extension. -/
def listedFields (l : Listing) (extension : String) : List Symbol :=
  (l.2.filter fun e => e = extension).map fun _ => fieldOf l.1

/-- The symbols are the namespaces of some definitions. -/
structure Namespaces (listings : List Listing) (groups : List Symbol) : Prop where
  kind : ∀ g ∈ groups, g.kind = .target
  distinct : (groups.map Symbol.name).Nodup
  /-- There is a namespace for each extension that is listed, and for no other one. -/
  named : ∀ e, e ∈ groups.map Symbol.name ↔ ∃ l ∈ listings, e ∈ l.2
  /-- Extensions that are listed earlier come first. -/
  inOrder : InOrderOf (listings.flatMap (·.2)) (groups.map Symbol.name)
  /-- In the order of the definitions, there is one field for each time that the extension is
  listed. -/
  fields : ∀ g ∈ groups, g.children = listings.flatMap (listedFields · g.name)
  span : ∀ g ∈ groups, g.span.IsHull (g.children.map Symbol.span)

/-- The definitions with what `stringsAt` finds in them. -/
def listingsOf (definitions : List Yaml.Node) : List Listing :=
  definitions.map fun d => (d, stringsAt d "target_extension")

/-- The extensions of all `definitionFields`, one after the other, are those that are listed. -/
private theorem names_flatMap_definitionFields (definitions : List Yaml.Node) :
    Assoc.names (definitions.flatMap definitionFields) =
      (listingsOf definitions).flatMap (·.2) := by
  simp only [Assoc.names, listingsOf, List.map_flatMap, List.flatMap_map, definitionFields_eq,
    List.map_map, Function.comp_def, List.map_id']

/-- An extension has one field for each time that a definition lists it. -/
private theorem fieldsFor_flatMap_definitionFields (definitions : List Yaml.Node)
    (extension : String) :
    fieldsFor (definitions.flatMap definitionFields) extension =
      (listingsOf definitions).flatMap (listedFields · extension) := by
  simp only [fieldsFor, listedFields, listingsOf, List.filter_flatMap, List.map_flatMap,
    List.flatMap_map, definitionFields_eq, List.filter_map, List.map_map, Function.comp_def]

/-- The fields of some definitions, given to `place` one after the other, give their namespaces. -/
theorem namespaces_foldl_place (definitions : List Yaml.Node) :
    Namespaces (listingsOf definitions)
      ((definitions.flatMap definitionFields).foldl place []) := by
  have h := groups_nil.foldl_place (definitions.flatMap definitionFields)
  have hall := names_flatMap_definitionFields definitions
  rw [List.nil_append] at h
  exact {
    kind := fun g hg => (h.isGroup g hg).kind
    distinct := h.inOrder.nodup
    named := fun e => by rw [h.named, hall, List.mem_flatMap]
    inOrder := hall ▸ h.inOrder
    fields := fun g hg => by
      rw [(h.isGroup g hg).children, fieldsFor_flatMap_definitionFields]
    span := fun g hg => (h.isGroup g hg).span }

/-! ## One field for each definition -/

/-- Each namespace has one field for each definition that lists its extension. -/
def OneFieldEach (listings : List Listing) (groups : List Symbol) : Prop :=
  ∀ g ∈ groups,
    g.children = (listings.filter fun l => g.name ∈ l.2).map fun l => fieldOf l.1

private theorem length_listedFields (l : Listing) (extension : String) :
    (listedFields l extension).length = l.2.count extension := by
  rw [listedFields, List.length_map, List.count, List.countP_eq_length_filter]
  rfl

/-- All fields of one listing are the field of its definition. -/
private theorem listedFields_eq_replicate (l : Listing) (extension : String) :
    listedFields l extension = List.replicate (l.2.count extension) (fieldOf l.1) := by
  refine List.eq_replicate_iff.mpr ⟨length_listedFields l extension, ?_⟩
  intro field hfield
  obtain ⟨-, -, rfl⟩ := List.mem_map.mp hfield
  rfl

/-- If no definition lists an extension twice, the fields of the extension are one for each
definition that lists it. -/
private theorem flatMap_listedFields {listings : List Listing} {extension : String}
    (h : ∀ l ∈ listings, l.2.count extension ≤ 1) :
    listings.flatMap (listedFields · extension) =
      (listings.filter fun l => extension ∈ l.2).map fun l => fieldOf l.1 := by
  induction listings with
  | nil => rfl
  | cons l listings ih =>
    have hl := h l List.mem_cons_self
    rw [List.flatMap_cons, ih fun l' hl' => h l' (List.mem_cons_of_mem l hl'),
      listedFields_eq_replicate]
    -- a definition that lists the extension lists it once; any other brings no field
    by_cases hmem : extension ∈ l.2
    · have hpos : 0 < l.2.count extension := List.count_pos_iff.mpr hmem
      have hone : l.2.count extension = 1 := by omega
      rw [List.filter_cons_of_pos (by simpa using hmem), hone]
      rfl
    · rw [List.filter_cons_of_neg (by simpa using hmem), List.count_eq_zero_of_not_mem hmem]
      rfl

/-- There are at least as many fields as definitions that list the extension. -/
private theorem length_filter_le_flatMap (listings : List Listing) (extension : String) :
    (listings.filter fun l => extension ∈ l.2).length ≤
      (listings.flatMap (listedFields · extension)).length := by
  induction listings with
  | nil => exact Nat.le_refl 0
  | cons l listings ih =>
    rw [List.flatMap_cons, List.length_append, length_listedFields]
    by_cases hmem : extension ∈ l.2
    · have hpos : 0 < l.2.count extension := List.count_pos_iff.mpr hmem
      rw [List.filter_cons_of_pos (by simpa using hmem), List.length_cons]
      omega
    · rw [List.filter_cons_of_neg (by simpa using hmem)]
      omega

/-- If there are as many fields as definitions that list the extension, none lists it twice. -/
private theorem count_le_of_length_eq {listings : List Listing} {extension : String}
    (h : (listings.flatMap (listedFields · extension)).length =
      (listings.filter fun l => extension ∈ l.2).length) :
    ∀ l ∈ listings, l.2.count extension ≤ 1 := by
  induction listings with
  | nil => exact nofun
  | cons l listings ih =>
    have hle := length_filter_le_flatMap listings extension
    rw [List.flatMap_cons, List.length_append, length_listedFields] at h
    by_cases hmem : extension ∈ l.2
    · have hpos : 0 < l.2.count extension := List.count_pos_iff.mpr hmem
      rw [List.filter_cons_of_pos (by simpa using hmem), List.length_cons] at h
      exact List.forall_mem_cons.mpr ⟨by omega, ih (by omega)⟩
    · have hzero : l.2.count extension = 0 := List.count_eq_zero_of_not_mem hmem
      rw [List.filter_cons_of_neg (by simpa using hmem)] at h
      exact List.forall_mem_cons.mpr ⟨by omega, ih (by omega)⟩

/-- There is one field for each definition that lists an extension, exactly if no definition lists
an extension twice. -/
theorem Namespaces.oneFieldEach_iff {listings : List Listing} {groups : List Symbol}
    (h : Namespaces listings groups) :
    OneFieldEach listings groups ↔ ∀ l ∈ listings, l.2.Nodup := by
  constructor
  · intro hone l hl
    refine List.nodup_iff_count_le_one.mpr fun e => ?_
    by_cases hmem : e ∈ l.2
    · -- the extension has a namespace, and the number of its fields tells
      obtain ⟨g, hg, rfl⟩ := List.mem_map.mp ((h.named e).mpr ⟨l, hl, hmem⟩)
      have hlength := congrArg List.length ((h.fields g hg).symm.trans (hone g hg))
      rw [List.length_map] at hlength
      exact count_le_of_length_eq hlength l hl
    · rw [List.count_eq_zero_of_not_mem hmem]
      exact Nat.zero_le 1
  · intro hnodup g hg
    rw [h.fields g hg]
    exact flatMap_listedFields fun l hl => List.nodup_iff_count_le_one.mp (hnodup l hl) g.name

/-! ## The outline of a file -/

/-- Whether a document names a primitive. -/
def namesPrimitive (d : Yaml.Document) : Bool :=
  ((d.get? "primitive_name").bind (·.str?)).isSome

/-- The symbols are the namespaces of the document's definitions. -/
def Outlines (d : Yaml.Document) (groups : List Symbol) : Prop :=
  ∃ listings : List Listing, HasDefinitions d (listings.map Prod.fst) ∧
    (∀ l ∈ listings, Lists l.1 l.2) ∧ Namespaces listings groups ∧
    (OneFieldEach listings groups ↔ ∀ l ∈ listings, l.2.Nodup)

/-- The fields of the definitions of a document, given to `place` one after the other, give the
namespaces of the document. -/
private theorem outlines_foldl_place (d : Yaml.Document) :
    Outlines d (((definitionsOf d).flatMap definitionFields).foldl place []) := by
  have hspaces := namespaces_foldl_place (definitionsOf d)
  refine ⟨listingsOf (definitionsOf d), ?_, ?_, hspaces, hspaces.oneFieldEach_iff⟩
  · have hfst : (listingsOf (definitionsOf d)).map Prod.fst = definitionsOf d := by
      rw [listingsOf, List.map_map]
      exact List.map_id _
    rw [hfst]
    exact hasDefinitions_definitionsOf d
  · intro l hl
    obtain ⟨definition, -, rfl⟩ := List.mem_map.mp hl
    exact lists_stringsAt definition

/-- `primitiveSymbol?` gives a document that names a primitive the namespaces of its definitions. -/
private theorem primitiveSymbol?_cases (d : Yaml.Document) :
    (namesPrimitive d = false ∧ primitiveSymbol? d = none) ∨
      ∃ symbol, namesPrimitive d = true ∧ primitiveSymbol? d = some symbol ∧
        Outlines d symbol.children := by
  unfold namesPrimitive primitiveSymbol?
  cases (d.get? "primitive_name").bind (·.str?) with
  | none => exact .inl ⟨rfl, rfl⟩
  | some primitive => exact .inr ⟨_, rfl, rfl, outlines_foldl_place d⟩

end Outline

open Outline in
/-- The `outline` of a file of primitives has one symbol for each document that names a primitive,
in order, and inside it the namespaces of the items of `definitions`. Their names are distinct and
in the order in which the `target_extension`s list them first. Each holds one field for each time
that a definition lists its extension, in the order of the definitions, and its span is the smallest
one that covers its fields. So there is one field for each definition and extension exactly if no
definition lists an extension twice. -/
theorem outline_groups_targets (stream : Yaml.Stream) :
    List.Forall₂ (fun d symbol => Outlines d symbol.children)
      (stream.documents.filter namesPrimitive) (outline stream .primitive) := by
  show List.Forall₂ _ _ (stream.documents.filterMap primitiveSymbol?)
  induction stream.documents with
  | nil => exact .nil
  | cons d documents ih =>
    -- a document that names no primitive is left out on both sides
    rcases primitiveSymbol?_cases d with ⟨hnamed, hnone⟩ | ⟨symbol, hnamed, hsome, hspaces⟩
    · rw [List.filter_cons_of_neg (by simp [hnamed]), List.filterMap_cons_none hnone]
      exact ih
    · rw [List.filter_cons_of_pos hnamed, List.filterMap_cons_some hsome]
      exact .cons hspaces ih

/-- Two definitions, of which the first lists two extensions and the second one of them again. -/
def fanOutText : String :=
  "primitive_name: add\ndefinitions:\n- target_extension: [sse, avx2]\n- target_extension: avx2\n"

open Outline in
/-- The namespace of the second extension reaches over both definitions. -/
theorem outline_groups_fanOutText :
    (outline (.ofText fanOutText) .primitive).map (fun symbol => symbol.children.map fun g =>
        (g.name, g.span, g.children.map Symbol.span)) =
      [[("sse", ⟨35, 64⟩, [⟨35, 64⟩]), ("avx2", ⟨35, 89⟩, [⟨35, 64⟩, ⟨67, 89⟩])]] ∧
      List.Forall₂ (fun d symbol => Outlines d symbol.children)
        ((Yaml.Stream.ofText fanOutText).documents.filter namesPrimitive)
        (outline (.ofText fanOutText) .primitive) := by
  refine ⟨by decide +kernel, ?_⟩
  exact outline_groups_targets (.ofText fanOutText)

/-- A definition that lists one extension twice. -/
def twiceListed : Yaml.Node :=
  .mapping [(.plain "target_extension" ⟨33, 49⟩,
    .sequence [.plain "sse" ⟨52, 55⟩, .plain "sse" ⟨57, 60⟩] ⟨51, 61⟩)] ⟨33, 61⟩

/-- The document `primitive_name: p` with that definition alone. -/
def twiceDocument : Yaml.Document where
  root? := some (.mapping [(.plain "primitive_name" ⟨0, 14⟩, .plain "p" ⟨16, 17⟩),
    (.plain "definitions" ⟨18, 29⟩, .sequence [twiceListed] ⟨33, 61⟩)] ⟨0, 61⟩)
  range := ⟨0, 61, 62⟩

open Outline in
/-- The only definition lists the only extension, and yet there are two fields. -/
theorem twice_listed_two_fields :
    HasDefinitions twiceDocument [twiceListed] ∧ Lists twiceListed ["sse", "sse"] ∧
      ∃ symbol g, outline ⟨[twiceDocument], []⟩ .primitive = [symbol] ∧ symbol.children = [g] ∧
        g.name = "sse" ∧ g.children = [fieldOf twiceListed, fieldOf twiceListed] ∧
        ¬OneFieldEach [(twiceListed, ["sse", "sse"])] symbol.children := by
  refine ⟨.items rfl, .sequence rfl (.string rfl (.string rfl .nil)), ?_⟩
  refine ⟨_, _, rfl, rfl, rfl, rfl, ?_⟩
  -- one definition would give one field
  intro hone
  have hlength := congrArg List.length (hone _ List.mem_cons_self)
  exact absurd hlength (by decide)

end PrimitiveDesk
