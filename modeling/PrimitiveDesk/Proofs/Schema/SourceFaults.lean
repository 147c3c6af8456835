import Mathlib.Data.List.Lex
import PrimitiveDesk.Schema.Source

/-!
# Faults of a schema source

Reading a level examines some places of its source: the sections of the level, the specs in them,
and what these specs describe in turn (`Opens`). A place may be malformed (`Malformed`). Every place
has an address, the way to it in numbers, and a trail, the way to it in names. The error of a source
that is refused is the one of its first malformed place in the order of addresses.

`Outcome` is what comes of reading a part of a source: a result, or the error of the first malformed
place in it. Outcomes are put together as the parts are (`Outcome.bind`, `Outcome.under`), so that
there is one lemma for each function that reads a part, up to `ofSpec` (`outcome_ofSpec`).
-/

namespace PrimitiveDesk

namespace SchemaNode

/-! ## Places -/

/-- A place of a schema source. -/
inductive Place where
  /-- A level, which has sections. -/
  | level (value : Json)
  /-- The fields of a section. -/
  | fields (name : String) (value : Json)
  /-- The spec of a field, or of the elements of a list. -/
  | spec (value : Json)

/-- The type of a spec is one of the given names. -/
def HasType (members : Json.Members) (names : List String) : Prop :=
  ∃ name ∈ names, Assoc.find? members "type" = some (.str name)

/-- The spec has a level as its entry type. -/
def HasEntryLevel (members : Json.Members) : Prop :=
  ∃ entry, Assoc.find? members "entry_type" = some entry ∧ isLevel entry

/-- The places that are examined right below a place, with their numbers and names. -/
inductive Opens : Place → List Nat → List String → Place → Prop
  /-- A level has its sections below it. -/
  | fields {members : Json.Members} {i : Nat} {name : String} {value : Json}
    (hmember : members[i]? = some (name, value)) (hname : name = "required" ∨ name = "optional") :
    Opens (.level (.obj members)) [i] [] (.fields name value)
  /-- A section has the specs of its fields below it. -/
  | spec {name : String} {specs : Json.Members} {i : Nat} {field : String} {value : Json}
    (hmember : specs[i]? = some (field, value)) :
    Opens (.fields name (.obj specs)) [i] [field] (.spec value)
  /-- The elements of a list may be described by a level. -/
  | elementLevel {members : Json.Members} {entry : Json}
    (htype : HasType members ["list", "array"])
    (hentry : Assoc.find? members "entry_type" = some entry) (hlevel : isLevel entry = true) :
    Opens (.spec (.obj members)) [] ["items"] (.level entry)
  /-- Other elements of a list have a spec of their own, unless a name or nothing describes them. -/
  | elementSpec {members : Json.Members} {entry : Json}
    (htype : HasType members ["list", "array"])
    (hentry : Assoc.find? members "entry_type" = some entry) (hlevel : isLevel entry = false)
    (hnull : entry.isNull = false) (hname : entry.str? = none) :
    Opens (.spec (.obj members)) [] ["items"] (.spec entry)
  /-- The fields of a dictionary may be those of its entry type. -/
  | entryLevel {members : Json.Members} {entry : Json}
    (htype : HasType members ["dict", "object"])
    (hentry : Assoc.find? members "entry_type" = some entry) (hlevel : isLevel entry = true) :
    Opens (.spec (.obj members)) [] [] (.level entry)
  /-- Other dictionaries, and specs without a type, may have sections themselves. -/
  | own {members : Json.Members}
    (htype : HasType members ["dict", "object"] ∧ ¬ HasEntryLevel members ∨
      Assoc.find? members "type" = none) (hsections : hasSections members = true) :
    Opens (.spec (.obj members)) [] [] (.level (.obj members))

/-- A place that is malformed, with the names that an error adds for it. -/
inductive Malformed : Place → List String → FieldFault → Prop
  /-- A level is a mapping. -/
  | level {value : Json} (hvalue : value.members? = none) :
    Malformed (.level value) [] .sectionsExpected
  /-- A section is a mapping or empty. -/
  | fields {name : String} {value : Json} (hvalue : value.members? = none)
    (hnull : value.isNull = false) : Malformed (.fields name value) [name] .fieldsExpected
  /-- A spec is a mapping or empty. -/
  | spec {value : Json} (hvalue : value.members? = none) (hnull : value.isNull = false) :
    Malformed (.spec value) [] .mappingExpected
  /-- A type is given by its name. -/
  | type {members : Json.Members} {found : Json}
    (htype : Assoc.find? members "type" = some found) (hfound : found.str? = none) :
    Malformed (.spec (.obj members)) [] (.typeNotString found)

/-- The place is not malformed itself. -/
def Place.WellFormed (p : Place) : Prop :=
  ∀ names fault, ¬ Malformed p names fault

/-- The places that are examined from a place on. -/
inductive Examines : Place → List Nat → List String → Place → Prop
  | here (p : Place) : Examines p [] [] p
  | opens {p q r : Place} {address address' : List Nat} {trail trail' : List String}
    (hopens : Opens p address trail q) (hrest : Examines q address' trail' r) :
    Examines p (address ++ address') (trail ++ trail') r

/-- Where a source is malformed, and how. -/
structure Spot where
  /-- The way to the spot in numbers. -/
  address : List Nat
  /-- The way to the spot in names. -/
  trail : List String
  fault : FieldFault

namespace Spot

/-- The spot is a malformed place that is examined from the given place on. -/
def IsIn (s : Spot) (p : Place) : Prop :=
  ∃ trail q names, Examines p s.address trail q ∧ Malformed q names s.fault ∧
    s.trail = trail ++ names

/-- The order of spots: depth first, as the source is written. -/
def Before (s t : Spot) : Prop :=
  List.Lex (· < ·) s.address t.address

/-- The same spot, seen from further up. -/
def under (address : List Nat) (trail : List String) (s : Spot) : Spot :=
  { s with address := address ++ s.address, trail := trail ++ s.trail }

end Spot

/-- The path of an error: a point stands in front of each name. -/
def extendPath (path : String) (trail : List String) : String :=
  trail.foldl (fun path name => path ++ "." ++ name) path

/-- The error of a spot in a source that is read under the given path. -/
def Spot.error (path : String) (s : Spot) : SchemaError :=
  .invalidField (extendPath path s.trail) s.fault

private theorem extendPath_append (path : String) (xs ys : List String) :
    extendPath path (xs ++ ys) = extendPath (extendPath path xs) ys :=
  List.foldl_append

/-! ## Outcomes -/

/-- What comes of reading a part of a source with the given spots: a result if there is no spot, and
otherwise the error of the first one. -/
def Outcome {α : Type} (P : Spot → Prop) (path : String) : Except SchemaError α → Prop
  | .ok _ => ∀ s, ¬ P s
  | .error e => ∃ s, P s ∧ (∀ t, P t → t = s ∨ s.Before t) ∧ e = s.error path

namespace Outcome

variable {α β : Type} {P Q : Spot → Prop} {path : String}

private theorem congr {r : Except SchemaError α} (h : Outcome P path r) (hPQ : ∀ s, P s ↔ Q s) :
    Outcome Q path r := by
  have : P = Q := funext fun s => propext (hPQ s)
  rwa [← this]

/-- A part is read after another one, whose spots stand in front. -/
theorem bind {x : Except SchemaError α} {f : α → Except SchemaError β} (hx : Outcome P path x)
    (hf : ∀ a, Outcome Q path (f a)) (hbefore : ∀ s t, P s → Q t → s.Before t) :
    Outcome (fun s => P s ∨ Q s) path (x >>= f) := by
  cases x with
  | error e =>
    obtain ⟨s, hs, hfirst, he⟩ := hx
    refine ⟨s, Or.inl hs, ?_, he⟩
    rintro t (ht | ht)
    · exact hfirst t ht
    · exact Or.inr (hbefore s t hs ht)
  | ok a =>
    -- the first part has no spots
    refine (hf a).congr ?_
    intro s
    constructor
    · exact Or.inr
    · rintro (hs | hs)
      · exact absurd hs (hx s)
      · exact hs

private theorem map {x : Except SchemaError α} (hx : Outcome P path x) (f : α → β) :
    Outcome P path (x >>= fun a => pure (f a)) := by
  cases x with
  | error e => exact hx
  | ok a => exact hx

/-- The outcome of a part, seen from further up. -/
theorem under {r : Except SchemaError α} (address : List Nat) {trail : List String}
    (h : Outcome P (extendPath path trail) r) :
    Outcome (fun s => ∃ t, P t ∧ s = t.under address trail) path r := by
  cases r with
  | ok a =>
    rintro s ⟨t, ht, -⟩
    exact h t ht
  | error e =>
    obtain ⟨s, hs, hfirst, he⟩ := h
    refine ⟨s.under address trail, ⟨s, hs, rfl⟩, ?_, ?_⟩
    · rintro _ ⟨t, ht, rfl⟩
      rcases hfirst t ht with rfl | hbefore
      · exact Or.inl rfl
      · exact Or.inr (List.Lex.append_left _ hbefore address)
    · rw [he, Spot.error, Spot.error, Spot.under, extendPath_append]

end Outcome

/-! ## The spots of each place -/

namespace Spot

/-- A spot in a place is the place itself, or a spot in a place right below it. -/
theorem isIn_iff {s : Spot} {p : Place} :
    s.IsIn p ↔ s.address = [] ∧ Malformed p s.trail s.fault ∨
      ∃ address trail q, ∃ t : Spot, Opens p address trail q ∧ t.IsIn q ∧
        s = t.under address trail := by
  constructor
  · rintro ⟨trail, q, names, hexamines, hmalformed, htrail⟩
    obtain ⟨address, trail', fault⟩ := s
    cases htrail
    -- the place itself, or one that is examined on from a place right below
    cases hexamines with
    | here => exact Or.inl ⟨rfl, hmalformed⟩
    | @opens _ q' _ a a' u u' hopens hrest =>
      refine Or.inr ⟨a, u, q', ⟨a', u' ++ names, fault⟩, hopens,
        ⟨_, q, names, hrest, hmalformed, rfl⟩, ?_⟩
      show (⟨a ++ a', u ++ u' ++ names, fault⟩ : Spot) = ⟨a ++ a', u ++ (u' ++ names), fault⟩
      rw [List.append_assoc]
  · rintro (⟨haddress, hmalformed⟩ | ⟨address, trail, q, t, hopens, hin, rfl⟩)
    · exact ⟨[], p, s.trail, haddress ▸ .here p, hmalformed, rfl⟩
    · obtain ⟨u, r, names, hrest, hmalformed, htrail⟩ := hin
      refine ⟨trail ++ u, r, names, .opens hopens hrest, hmalformed, ?_⟩
      rw [under, htrail, List.append_assoc]

end Spot

/-- Nothing is examined below a malformed place. -/
private theorem Malformed.not_opens {p q : Place} {names trail : List String} {fault : FieldFault}
    {address : List Nat} (h : Malformed p names fault) : ¬ Opens p address trail q := by
  intro hopens
  cases h with
  | level hvalue => cases hopens; cases hvalue
  | fields hvalue => cases hopens; cases hvalue
  | spec hvalue => cases hopens <;> cases hvalue
  | type htype hfound => cases hopens <;> grind [HasType, Json.str?]

/-- A place is malformed in one way only. -/
private theorem Malformed.unique {p : Place} {names names' : List String}
    {fault fault' : FieldFault} (h : Malformed p names fault) (h' : Malformed p names' fault') :
    names' = names ∧ fault' = fault := by
  cases h with
  | level => cases h'; exact ⟨rfl, rfl⟩
  | fields => cases h'; exact ⟨rfl, rfl⟩
  | spec hvalue =>
    cases h' with
    | spec => exact ⟨rfl, rfl⟩
    | type => cases hvalue
  | type htype =>
    cases h' with
    | spec hvalue => cases hvalue
    | type htype' =>
      rw [htype] at htype'
      cases htype'
      exact ⟨rfl, rfl⟩

namespace Outcome

variable {α : Type} {path : String} {p : Place}

/-- A malformed place is its only spot. -/
private theorem of_malformed {names : List String} {fault : FieldFault}
    (h : Malformed p names fault) :
    Outcome (α := α) (Spot.IsIn · p) path
      (.error (.invalidField (extendPath path names) fault)) := by
  refine ⟨⟨[], names, fault⟩, ⟨[], p, names, .here p, h, rfl⟩, ?_, rfl⟩
  intro t ht
  -- the place is malformed in one way, and nothing below it is examined
  rcases Spot.isIn_iff.mp ht with ⟨haddress, hmalformed⟩ | ⟨_, _, _, _, hopens, -, -⟩
  · obtain ⟨address, trail, fault'⟩ := t
    obtain ⟨rfl, rfl⟩ := h.unique hmalformed
    cases haddress
    exact Or.inl rfl
  · exact absurd hopens h.not_opens

/-- A place that is well formed and below which nothing is examined has no spots. -/
private theorem of_closed (hwell : p.WellFormed)
    (hclosed : ∀ address trail q, ¬ Opens p address trail q) (a : α) :
    Outcome (Spot.IsIn · p) path (.ok a) := by
  intro s hs
  rcases Spot.isIn_iff.mp hs with ⟨-, hmalformed⟩ | ⟨_, _, _, _, hopens, -, -⟩
  · exact hwell _ _ hmalformed
  · exact hclosed _ _ _ hopens

end Outcome

/-! ## Sections -/

/-- The spots of members, which are numbered from `offset` on. -/
def InMembers (P : String → Json → Spot → Prop) (members : Json.Members) (offset : Nat)
    (s : Spot) : Prop :=
  ∃ i name value t, members[i]? = some (name, value) ∧ P name value t ∧
    s = t.under [offset + i] []

private theorem not_inMembers_nil (P : String → Json → Spot → Prop) (offset : Nat) (s : Spot) :
    ¬ InMembers P [] offset s := by
  rintro ⟨i, name, value, t, hi, -, -⟩
  simp at hi

/-- The spots of the first member, and those of the rest. -/
private theorem inMembers_cons {P : String → Json → Spot → Prop} {name : String} {value : Json}
    {rest : Json.Members} {offset : Nat} {s : Spot} :
    InMembers P ((name, value) :: rest) offset s ↔
      (∃ t, P name value t ∧ s = t.under [offset] []) ∨ InMembers P rest (offset + 1) s := by
  constructor
  · rintro ⟨_ | i, name', value', t, hi, ht, rfl⟩
    · cases hi
      exact Or.inl ⟨t, ht, rfl⟩
    · refine Or.inr ⟨i, name', value', t, hi, ht, ?_⟩
      rw [Nat.add_right_comm, Nat.add_assoc]
  · rintro (⟨t, ht, rfl⟩ | ⟨i, name', value', t, hi, ht, rfl⟩)
    · exact ⟨0, name, value, t, rfl, ht, rfl⟩
    · refine ⟨i + 1, name', value', t, hi, ht, ?_⟩
      rw [Nat.add_right_comm, Nat.add_assoc]

/-- A member is read in front of the rest. -/
private theorem Outcome.cons {α β : Type} {P : String → Json → Spot → Prop} {name : String}
    {value : Json} {rest : Json.Members} {offset : Nat} {path : String} {x : Except SchemaError α}
    {f : α → Except SchemaError β} (hx : Outcome (P name value) path x)
    (hrest : ∀ a, Outcome (InMembers P rest (offset + 1)) path (f a)) :
    Outcome (InMembers P ((name, value) :: rest) offset) path (x >>= f) := by
  have hfirst : Outcome (fun s => ∃ t, P name value t ∧ s = t.under [offset] []) path x :=
    hx.under [offset]
  refine (hfirst.bind hrest ?_).congr fun s => inMembers_cons.symm
  rintro s t ⟨s', -, rfl⟩ ⟨i, _, _, t', -, -, rfl⟩
  -- the numbers of the rest are larger
  exact List.Lex.rel (by omega)

private theorem wellFormed_level (members : Json.Members) :
    (Place.level (.obj members)).WellFormed := by
  intro names fault h
  cases h with
  | level hvalue => cases hvalue

private theorem wellFormed_fields (name : String) (specs : Json.Members) :
    (Place.fields name (.obj specs)).WellFormed := by
  intro names fault h
  cases h with
  | fields hvalue => cases hvalue

/-- The spots of a level are those of its sections. -/
private theorem Spot.isIn_level {s : Spot} {members : Json.Members} :
    s.IsIn (.level (.obj members)) ↔
      InMembers (fun name value t => (name = "required" ∨ name = "optional") ∧
        t.IsIn (.fields name value)) members 0 s := by
  rw [isIn_iff]
  constructor
  · rintro (⟨-, hmalformed⟩ | ⟨_, _, _, t, hopens, ht, rfl⟩)
    · exact absurd hmalformed (wellFormed_level members _ _)
    · cases hopens with
      | fields hmember hname =>
        exact ⟨_, _, _, t, hmember, ⟨hname, ht⟩, by rw [Nat.zero_add]⟩
  · rintro ⟨i, name, value, t, hmember, ⟨hname, ht⟩, rfl⟩
    exact Or.inr ⟨[i], [], _, t, .fields hmember hname, ht, by rw [Nat.zero_add]⟩

/-- The spots of a section are those of its specs. -/
private theorem Spot.isIn_fields {s : Spot} {name : String} {specs : Json.Members} :
    s.IsIn (.fields name (.obj specs)) ↔
      InMembers (fun field value t => ∃ u : Spot, u.IsIn (.spec value) ∧ t = u.under [] [field])
        specs 0 s := by
  rw [isIn_iff]
  constructor
  · rintro (⟨-, hmalformed⟩ | ⟨_, _, _, t, hopens, ht, rfl⟩)
    · exact absurd hmalformed (wellFormed_fields name specs _ _)
    · cases hopens with
      | spec hmember => exact ⟨_, _, _, _, hmember, ⟨t, ht, rfl⟩, by rw [Nat.zero_add]; rfl⟩
  · rintro ⟨i, field, value, _, hmember, ⟨t, ht, rfl⟩, rfl⟩
    exact Or.inr ⟨[i], [field], _, t, .spec hmember, ht, by rw [Nat.zero_add]; rfl⟩

/-- All specs below a size are read as their spots tell. -/
def ReadsBelow (size : Nat) : Prop :=
  ∀ spec : Json, sizeOf spec < size →
    ∀ path c, Outcome (Spot.IsIn · (.spec spec)) path (ofSpec path c spec)

/-- What comes of reading the specs of a section by `specFields`. -/
private theorem outcome_specFields {specs : Json.Members} (ih : ReadsBelow (sizeOf specs))
    (path : String) (c : Cardinality) (offset : Nat) (shape : Shape) :
    Outcome (InMembers (fun field value t =>
      ∃ u : Spot, u.IsIn (.spec value) ∧ t = u.under [] [field]) specs offset) path
      (specFields path c specs shape) := by
  induction specs generalizing offset shape with
  | nil =>
    rw [specFields]
    exact not_inMembers_nil _ _
  | cons e rest ih' =>
    obtain ⟨field, value⟩ := e
    simp only [List.cons.sizeOf_spec, Prod.mk.sizeOf_spec] at ih
    rw [specFields]
    refine Outcome.cons ?_ fun node => ih' ?_ _ _
    · have hvalue : Outcome (Spot.IsIn · (.spec value)) (extendPath path [field])
          (ofSpec (path ++ "." ++ field) c value) := ih value (by omega) _ c
      exact hvalue.under []
    · intro spec hspec
      exact ih spec (by omega)

/-- What is no section by `Cardinality.ofSection?` has none of the two names. -/
theorem ofSection?_eq_none {name : String} (h : Cardinality.ofSection? name = none) :
    ¬ (name = "required" ∨ name = "optional") := by
  rintro (rfl | rfl) <;> cases h

/-- A section by `Cardinality.ofSection?` has one of the two names. -/
theorem ofSection?_eq_some {name : String} {c : Cardinality}
    (h : Cardinality.ofSection? name = some c) : name = "required" ∨ name = "optional" := by
  unfold Cardinality.ofSection? at h
  split at h
  · exact Or.inl rfl
  · exact Or.inr rfl
  · cases h

/-- What comes of reading the sections of a level by `sections`. -/
private theorem outcome_sections {members : Json.Members} (ih : ReadsBelow (sizeOf members))
    (path : String) (offset : Nat) (shape : Shape) :
    Outcome (InMembers (fun name value t => (name = "required" ∨ name = "optional") ∧
      t.IsIn (.fields name value)) members offset) path (sections path members shape) := by
  induction members generalizing offset shape with
  | nil =>
    rw [sections]
    exact not_inMembers_nil _ _
  | cons e rest ih' =>
    obtain ⟨name, value⟩ := e
    simp only [List.cons.sizeOf_spec, Prod.mk.sizeOf_spec] at ih
    have hrest : ∀ shape, Outcome (InMembers (fun name value t =>
        (name = "required" ∨ name = "optional") ∧ t.IsIn (.fields name value)) rest (offset + 1))
        path (sections path rest shape) := fun shape =>
      ih' (fun spec hspec => ih spec (by omega)) (offset + 1) shape
    unfold sections
    cases hc : Cardinality.ofSection? name with
    | none =>
      refine Outcome.cons (x := .ok shape) ?_ hrest
      rintro s ⟨hname, -⟩
      exact ofSection?_eq_none hc hname
    | some c =>
      have hname := ofSection?_eq_some hc
      have hiff : ∀ s : Spot, s.IsIn (.fields name value) ↔
          (name = "required" ∨ name = "optional") ∧ s.IsIn (.fields name value) :=
        fun s => (and_iff_right hname).symm
      -- what is no mapping is refused, unless it is empty
      have hrefused (hvalue : value.members? = none) (hnull : value.isNull = false) :
          Outcome (α := Shape) (fun s => (name = "required" ∨ name = "optional") ∧
            s.IsIn (.fields name value)) path
            (.error (.invalidField (path ++ "." ++ name) .fieldsExpected)) :=
        (Outcome.of_malformed (.fields hvalue hnull)).congr hiff
      -- a section is a mapping of specs or empty
      cases value with
      | obj specs =>
        simp only [Json.obj.sizeOf_spec] at ih
        have hbelow : ReadsBelow (sizeOf specs) := fun spec hspec => ih spec (by omega)
        have hspecs := outcome_specFields hbelow path c 0 shape
        exact Outcome.cons ((hspecs.congr fun s => Spot.isIn_fields.symm).congr hiff) hrest
      | null =>
        refine Outcome.cons (x := .ok shape) ?_ hrest
        refine (Outcome.of_closed ?_ ?_ shape).congr hiff
        · intro names fault h
          cases h with
          | fields _ hnull => cases hnull
        · intro address trail q h
          cases h
      | _ => exact Outcome.cons (hrefused rfl rfl) hrest

/-- What comes of reading a level by `ofLevel`. -/
theorem outcome_ofLevel {value : Json} (ih : ReadsBelow (sizeOf value)) (path : String) :
    Outcome (Spot.IsIn · (.level value)) path (ofLevel path value) := by
  have hrefused (hvalue : value.members? = none) : Outcome (α := Shape)
      (Spot.IsIn · (.level value)) path (.error (.invalidField path .sectionsExpected)) :=
    .of_malformed (.level hvalue)
  cases value with
  | obj members =>
    simp only [Json.obj.sizeOf_spec] at ih
    rw [ofLevel]
    exact (outcome_sections (fun spec hspec => ih spec (by omega)) path 0 []).congr
      fun s => Spot.isIn_level.symm
  | _ =>
    unfold ofLevel
    exact hrefused rfl

/-! ## Specs -/

/-- A type of one group is none of another group. -/
private theorem HasType.disjoint {members : Json.Members} {names names' : List String}
    (h : HasType members names) (hdisjoint : ∀ name ∈ names, name ∉ names') :
    ¬ HasType members names' := by
  obtain ⟨name, hmem, hname⟩ := h
  rintro ⟨name', hmem', hname'⟩
  rw [hname] at hname'
  cases hname'
  exact hdisjoint name hmem hmem'

/-- At most one place is examined right below a spec. -/
private theorem Opens.unique {value : Json} {address address' : List Nat}
    {trail trail' : List String} {q q' : Place} (h : Opens (.spec value) address trail q)
    (h' : Opens (.spec value) address' trail' q') :
    address' = address ∧ trail' = trail ∧ q' = q := by
  have hdisjoint {members : Json.Members} (h : HasType members ["list", "array"]) :
      ¬ HasType members ["dict", "object"] := h.disjoint (by simp)
  cases h <;> cases h' <;> grind [HasType, HasEntryLevel]

/-- A spec without a fault of its own has the spots of the place below it. -/
private theorem Outcome.of_opens {α : Type} {value : Json} {address : List Nat}
    {trail : List String} {q : Place} {path : String} (hwell : (Place.spec value).WellFormed)
    (hopens : Opens (.spec value) address trail q) {r : Except SchemaError α}
    (h : Outcome (Spot.IsIn · q) (extendPath path trail) r) :
    Outcome (Spot.IsIn · (.spec value)) path r := by
  refine (h.under address).congr ?_
  intro s
  rw [Spot.isIn_iff]
  constructor
  · rintro ⟨t, ht, rfl⟩
    exact Or.inr ⟨address, trail, q, t, hopens, ht, rfl⟩
  · rintro (⟨-, hmalformed⟩ | ⟨_, _, _, t, hopens', ht, rfl⟩)
    · exact absurd hmalformed (hwell _ _)
    · -- only one place is right below the spec
      obtain ⟨rfl, rfl, rfl⟩ := hopens.unique hopens'
      exact ⟨t, ht, rfl⟩

/-- A mapping is well formed if its type, where it has one, is given by a name. -/
private theorem wellFormed_spec {members : Json.Members}
    (h : ∀ found, Assoc.find? members "type" = some found → found.str?.isSome) :
    (Place.spec (.obj members)).WellFormed := by
  intro names fault hmalformed
  cases hmalformed with
  | spec hvalue => cases hvalue
  | type htype hfound =>
    have := h _ htype
    rw [hfound] at this
    cases this

/-- What comes of reading the elements of a list by `elementOf`. -/
private theorem outcome_elementOf {members : Json.Members} (ih : ReadsBelow (sizeOf members))
    (htype : HasType members ["list", "array"])
    (hwell : (Place.spec (.obj members)).WellFormed) (path : String) :
    Outcome (Spot.IsIn · (.spec (.obj members))) path (elementOf path members) := by
  have hdict : ¬ HasType members ["dict", "object"] := htype.disjoint (by simp)
  have hpath : path ++ ".items" = extendPath path ["items"] := by
    show path ++ ("." ++ "items") = path ++ "." ++ "items"
    rw [String.append_assoc]
  -- nothing is examined below an entry type that is missing, null or a name
  rw [elementOf]
  split
  · next hentry =>
    refine .of_closed hwell ?_ _
    intro address trail q hopens
    cases hopens <;> grind [HasType]
  · next hentry =>
    refine .of_closed hwell ?_ _
    intro address trail q hopens
    cases hopens <;> grind [HasType, isLevel, Json.isNull]
  · next name hentry =>
    refine .of_closed hwell ?_ _
    intro address trail q hopens
    cases hopens <;> grind [HasType, isLevel, Json.str?]
  · next entry hnull hstr hentry =>
    have hsize : sizeOf entry < sizeOf members := Assoc.sizeOf_lt_of_find? hentry
    rw [hpath]
    -- a level is read as one, any other entry type as a spec
    split
    · next hlevel =>
      refine .of_opens hwell (.elementLevel htype hentry hlevel) (.map ?_ _)
      exact outcome_ofLevel (fun spec hspec => ih spec (by omega)) _
    · next hlevel =>
      rw [Bool.not_eq_true] at hlevel
      have hnull' : entry.isNull = false := by
        cases entry with
        | null => exact absurd rfl hnull
        | _ => rfl
      have hstr' : entry.str? = none := by
        cases entry with
        | str name => exact absurd rfl (hstr name)
        | _ => rfl
      exact .of_opens hwell (.elementSpec htype hentry hlevel hnull' hstr') (ih entry hsize _ _)

/-- A spec that may have sections has the spots of these. -/
private theorem outcome_own {members : Json.Members} (ih : ReadsBelow (sizeOf members))
    (htype : HasType members ["dict", "object"] ∧ ¬ HasEntryLevel members ∨
      Assoc.find? members "type" = none)
    (hwell : (Place.spec (.obj members)).WellFormed)
    (hsections : hasSections members = true) (path : String) :
    Outcome (Spot.IsIn · (.spec (.obj members))) path (sections path members []) := by
  refine .of_opens hwell (.own htype hsections) ?_
  exact (outcome_sections ih _ 0 []).congr fun s => Spot.isIn_level.symm

/-- A spec that may have sections but has none has no spots. -/
private theorem outcome_bare {α : Type} {members : Json.Members}
    (htype : HasType members ["dict", "object"] ∧ ¬ HasEntryLevel members ∨
      Assoc.find? members "type" = none)
    (hwell : (Place.spec (.obj members)).WellFormed)
    (hsections : ¬ hasSections members = true) (path : String) (a : α) :
    Outcome (Spot.IsIn · (.spec (.obj members))) path (.ok a) := by
  have hdisjoint (h : HasType members ["dict", "object"]) :
      ¬ HasType members ["list", "array"] := h.disjoint (by simp)
  refine .of_closed hwell ?_ a
  intro address trail q hopens
  cases hopens <;> grind [HasType, HasEntryLevel]

/-- What comes of reading the fields of a dictionary by `objectOf`. -/
private theorem outcome_objectOf {members : Json.Members} (ih : ReadsBelow (sizeOf members))
    (htype : HasType members ["dict", "object"])
    (hwell : (Place.spec (.obj members)).WellFormed) (path : String) :
    Outcome (Spot.IsIn · (.spec (.obj members))) path (objectOf path members) := by
  -- the fields are those of the spec itself unless its entry type has sections
  have hown (hentry : ¬ HasEntryLevel members) :
      Outcome (Spot.IsIn · (.spec (.obj members))) path
        (if hasSections members then sections path members [] else .ok []) := by
    split
    · next hsections => exact outcome_own ih (Or.inl ⟨htype, hentry⟩) hwell hsections path
    · next hsections => exact outcome_bare (Or.inl ⟨htype, hentry⟩) hwell hsections path []
  rw [objectOf]
  split
  · next entry hentry =>
    split
    · next hlevel =>
      have hsize : sizeOf (Json.obj entry) < sizeOf members := Assoc.sizeOf_lt_of_find? hentry
      simp only [Json.obj.sizeOf_spec] at hsize
      refine .of_opens hwell (.entryLevel htype hentry hlevel) ?_
      exact (outcome_sections (fun spec hspec => ih spec (by omega)) _ 0 []).congr
        fun s => Spot.isIn_level.symm
    · next hlevel =>
      refine hown ?_
      rintro ⟨entry', hentry', hlevel'⟩
      rw [hentry] at hentry'
      cases hentry'
      exact hlevel hlevel'
  · next hentry =>
    refine hown ?_
    rintro ⟨entry, hentry', hlevel⟩
    cases entry with
    | obj entry => exact hentry entry hentry'
    | _ => cases hlevel

/-- What comes of reading a spec by `ofSpec`. The recursion is that of `ofSpec`: all specs below are
smaller. -/
theorem outcome_ofSpec (spec : Json) (path : String) (c : Cardinality) :
    Outcome (Spot.IsIn · (.spec spec)) path (ofSpec path c spec) := by
  have ih : ReadsBelow (sizeOf spec) := fun spec' _ path c => outcome_ofSpec spec' path c
  have hrefused (hvalue : spec.members? = none) (hnull : spec.isNull = false) :
      Outcome (α := SchemaNode) (Spot.IsIn · (.spec spec)) path
        (.error (.invalidField path .mappingExpected)) :=
    .of_malformed (.spec hvalue hnull)
  -- a spec is a mapping, or null for a field without any restriction; anything else is refused
  cases spec with
  | obj members =>
    replace ih : ReadsBelow (sizeOf members) := by
      intro spec' hspec'
      simp only [Json.obj.sizeOf_spec] at ih
      exact ih spec' (by omega)
    unfold ofSpec
    -- the type decides what is examined next
    cases hfound : Assoc.find? members "type" with
    | none =>
      -- without a type the spec may still have sections of its own
      have hwell : (Place.spec (.obj members)).WellFormed :=
        wellFormed_spec (by simp [hfound])
      simp only
      split
      · next hsections => exact (outcome_own ih (Or.inr hfound) hwell hsections path).map _
      · next hsections => exact outcome_bare (Or.inr hfound) hwell hsections path _
    | some found =>
      -- a type that is no name is refused in front of all else
      have htype (hstr : found.str? = none) : Outcome (α := SchemaNode)
          (Spot.IsIn · (.spec (.obj members))) path
          (.error (.invalidField path (.typeNotString found))) :=
        .of_malformed (.type hfound hstr)
      cases found with
      | str name =>
        have hwell : (Place.spec (.obj members)).WellFormed := by
          apply wellFormed_spec
          intro found h
          rw [hfound] at h
          cases h
          rfl
        simp only
        -- a list, a dictionary, or a scalar, below which nothing is examined
        split
        · next hlist =>
          exact (outcome_elementOf ih ⟨name, by simpa using hlist, hfound⟩ hwell path).map _
        · next hlist =>
          split
          · next hdict =>
            exact (outcome_objectOf ih ⟨name, by simpa using hdict, hfound⟩ hwell path).map _
          · next hdict =>
            refine .of_closed hwell ?_ _
            intro address trail q hopens
            cases hopens <;> grind [HasType]
      | _ => exact htype rfl
  | null =>
    unfold ofSpec
    refine .of_closed ?_ ?_ _
    · intro names fault h
      cases h with
      | spec _ hnull => cases hnull
    · intro address trail q h
      cases h
  | _ =>
    unfold ofSpec
    exact hrefused rfl rfl
termination_by sizeOf spec

end SchemaNode

open SchemaNode

/-- A level is refused exactly if its source is malformed in a place that is examined. The error is
that of the first such place, and its path leads to the place by the names of the fields, a step for
the elements of each list, and the name of a malformed section. -/
theorem Shape.ofSections_error (value : Json) (path : String) :
    ((∃ e, Shape.ofSections value path = .error e) ↔ ∃ s : Spot, s.IsIn (.level value)) ∧
    ∀ e, Shape.ofSections value path = .error e →
      ∃ s : Spot, s.IsIn (.level value) ∧
        (∀ t : Spot, t.IsIn (.level value) → t = s ∨ List.Lex (· < ·) s.address t.address) ∧
        e = .invalidField (extendPath path s.trail) s.fault := by
  have houtcome : SchemaNode.Outcome (Spot.IsIn · (.level value)) path
      (Shape.ofSections value path) :=
    outcome_ofLevel (fun spec _ path c => outcome_ofSpec spec path c) path
  -- reading either succeeds and there is no malformed spot, or fails at the first one
  cases h : Shape.ofSections value path with
  | ok shape =>
    rw [h] at houtcome
    refine ⟨⟨?_, ?_⟩, ?_⟩
    · rintro ⟨e, he⟩
      cases he
    · rintro ⟨s, hs⟩
      exact absurd hs (houtcome s)
    · intro e he
      cases he
  | error e =>
    rw [h] at houtcome
    obtain ⟨s, hs, hfirst, he⟩ := houtcome
    refine ⟨⟨fun _ => ⟨s, hs⟩, fun _ => ⟨e, rfl⟩⟩, ?_⟩
    intro e' he'
    cases he'
    exact ⟨s, hs, hfirst, he⟩

end PrimitiveDesk
