import Mathlib.Data.List.Forall2
import Mathlib.Data.List.Lex
import PrimitiveDesk.Proofs.Editor.ReachedLevels
import PrimitiveDesk.Proofs.Json.SameValue

/-!
# The sites of findings

A site is a field of the level of a reached mapping. Its address is the way to it in numbers, so
that the order of addresses is the order of declaration, depth first. The findings of
`Finding.ofLevel` are what the sites of a document report, one for each site that reports something,
in the order of the addresses (`lists_ofLevel`, and spelled out `ofLevel_findings`).
-/

namespace PrimitiveDesk.Finding

open Yaml

/-! ## Sites -/

/-- The way of a step in numbers. -/
def Step.address (s : Step) : List Nat :=
  s.position :: s.item?.toList

/-- A field of a mapping. -/
structure Site where
  /-- The way to the mapping. -/
  route : List Step
  mapping : Node
  /-- The place of the field in the level of the mapping. -/
  position : Nat
  name : String
  field : SchemaNode

namespace Site

/-- The way to a site in numbers. -/
def address (σ : Site) : List Nat :=
  σ.route.flatMap Step.address ++ [σ.position]

/-- The order of sites: a field stands before what is below it, and that before the next field. -/
def Before (σ τ : Site) : Prop :=
  List.Lex (· < ·) σ.address τ.address

/-- The same site, seen from one step further up. -/
def under (s : Step) (σ : Site) : Site :=
  { σ with route := s :: σ.route }

end Site

/-- The sites of a document: the fields of the levels of all mappings that are reached. -/
def IsSite (root : Node) (shape : Shape) (σ : Site) : Prop :=
  ∃ level, Reaches root shape σ.route σ.mapping level ∧ σ.mapping.entries?.isSome ∧
    level[σ.position]? = some (σ.name, σ.field)

/-- What a site reports. -/
inductive Site.Reports (σ : Site) : Finding → Prop
  /-- A required field is not there. -/
  | missingRequired (habsent : σ.mapping.get? σ.name = none)
    (hrequired : σ.field.isRequired = true) :
    Reports σ ⟨.missingRequired σ.name, startOf σ.mapping⟩
  /-- A field that is recommended and not required is not there. -/
  | missingRecommended (habsent : σ.mapping.get? σ.name = none)
    (hoptional : σ.field.isRequired = false) (hrecommended : σ.field.info.recommended = true) :
    Reports σ ⟨.missingRecommended σ.name, startOf σ.mapping⟩
  /-- A recommended field has its default value. -/
  | setToDefault {value : Node} {default : Json} (hvalue : σ.mapping.get? σ.name = some value)
    (hrecommended : σ.field.info.recommended = true)
    (hdefault : σ.field.info.default? = some default) (hsame : default.same value.toJson = true) :
    Reports σ ⟨.setToDefault σ.name, value.span⟩

namespace Site

/-- A recommended field is reported for its default exactly if the value of the field equals it. -/
theorem reports_setToDefault_iff {σ : Site} {s : Span} {default : Json}
    (hdefault : σ.field.info.default? = some default) (hdistinct : default.Distinct) :
    σ.Reports ⟨.setToDefault σ.name, s⟩ ↔ σ.field.info.recommended = true ∧
      ∃ value, σ.mapping.get? σ.name = some value ∧ s = value.span ∧
        default.Equal value.toJson := by
  constructor
  · rintro (_ | _ | ⟨hvalue, hrecommended, hdefault', hsame⟩)
    obtain rfl := Option.some.inj (hdefault.symm.trans hdefault')
    exact ⟨hrecommended, _, hvalue, rfl, (Node.same_toJson_iff hdistinct _).mp hsame⟩
  · rintro ⟨hrecommended, value, hvalue, rfl, hequal⟩
    have hsame := (Node.same_toJson_iff hdistinct value).mpr hequal
    exact .setToDefault hvalue hrecommended hdefault hsame

/-- The `Site.address` of a site seen from further up starts with the numbers of the step. -/
@[simp] private theorem address_under (s : Step) (σ : Site) :
    (σ.under s).address = s.address ++ σ.address := by
  simp [address, under]

/-- What a site reports does not depend on the way to it. -/
private theorem reports_under {s : Step} {σ : Site} {f : Finding} :
    (σ.under s).Reports f ↔ σ.Reports f := by
  constructor
  · rintro (⟨h, hr⟩ | ⟨h, ho, hr⟩ | ⟨h, hr, hd, hs⟩)
    · exact .missingRequired h hr
    · exact .missingRecommended h ho hr
    · exact .setToDefault h hr hd hs
  · rintro (⟨h, hr⟩ | ⟨h, ho, hr⟩ | ⟨h, hr, hd, hs⟩)
    · exact .missingRequired (σ := σ.under s) h hr
    · exact .missingRecommended (σ := σ.under s) h ho hr
    · exact .setToDefault (σ := σ.under s) h hr hd hs

/-- `Site.Before` does not change when both sites are seen from one step further up. -/
private theorem Before.under {σ τ : Site} (h : σ.Before τ) (s : Step) :
    (σ.under s).Before (τ.under s) := by
  rw [Before, address_under, address_under]
  exact List.Lex.append_left _ h s.address

/-- Of two sites with different first numbers the one with the smaller number stands before. -/
private theorem before_of_head {σ τ : Site} {i j : Nat} (hσ : σ.address.head? = some i)
    (hτ : τ.address.head? = some j) (h : i < j) : σ.Before τ := by
  obtain ⟨a, ha⟩ := List.head?_eq_some_iff.mp hσ
  obtain ⟨b, hb⟩ := List.head?_eq_some_iff.mp hτ
  rw [Before, ha, hb]
  exact .rel h

end Site

/-! ## Lists of findings -/

/-- The findings are what the given sites report, in the order of the sites and one for each site
that reports something. -/
def Lists (P : Site → Prop) (fs : List Finding) : Prop :=
  ∃ sites : List Site, sites.Pairwise Site.Before ∧
    (∀ σ, σ ∈ sites ↔ P σ ∧ ∃ f, σ.Reports f) ∧ List.Forall₂ Site.Reports sites fs

/-- `Lists` depends on which sites are meant only. -/
private theorem Lists.congr {P Q : Site → Prop} {fs : List Finding} (h : Lists P fs)
    (hPQ : ∀ σ, P σ ↔ Q σ) : Lists Q fs := by
  obtain ⟨sites, hsorted, hmem, hreports⟩ := h
  exact ⟨sites, hsorted, fun σ => by rw [hmem, hPQ], hreports⟩

private theorem lists_nil {P : Site → Prop} (h : ∀ σ, ¬ P σ) : Lists P [] :=
  ⟨[], .nil, fun σ => by simp [h], .nil⟩

/-- Two lists of findings are joined if all sites of the first stand before those of the second. -/
private theorem Lists.append {P Q : Site → Prop} {fs gs : List Finding} (hP : Lists P fs)
    (hQ : Lists Q gs) (hbefore : ∀ σ τ, P σ → Q τ → σ.Before τ) :
    Lists (fun σ => P σ ∨ Q σ) (fs ++ gs) := by
  obtain ⟨xs, hxs, hmemx, hrepx⟩ := hP
  obtain ⟨ys, hys, hmemy, hrepy⟩ := hQ
  refine ⟨xs ++ ys, ?_, ?_, List.rel_append hrepx hrepy⟩
  · refine List.pairwise_append.mpr ⟨hxs, hys, ?_⟩
    intro σ hσ τ hτ
    exact hbefore σ τ ((hmemx σ).mp hσ).1 ((hmemy τ).mp hτ).1
  · intro σ
    rw [List.mem_append, hmemx, hmemy, or_and_right]

/-- Findings of one element after the other list the sites of all elements. -/
private theorem Lists.flatMap {α : Type} {xs : List α} {P : Nat → Site → Prop}
    {f : α → List Finding} (h : ∀ i x, xs[i]? = some x → Lists (P i) (f x))
    (hbefore : ∀ i j σ τ, i < j → P i σ → P j τ → σ.Before τ) :
    Lists (fun σ => ∃ i, i < xs.length ∧ P i σ) (xs.flatMap f) := by
  induction xs generalizing P with
  | nil => exact lists_nil (by simp)
  | cons x xs ih =>
    -- the induction is on the elements; the sites of the rest are numbered from one
    have hrest : Lists (fun σ => ∃ i, i < xs.length ∧ P (i + 1) σ) (xs.flatMap f) := by
      apply ih
      · intro i y hy
        exact h (i + 1) y hy
      · intro i j σ τ hij
        exact hbefore (i + 1) (j + 1) σ τ (by omega)
    rw [List.flatMap_cons]
    refine ((h 0 x rfl).append hrest ?_).congr ?_
    · rintro σ τ hσ ⟨i, -, hτ⟩
      exact hbefore 0 (i + 1) σ τ (by omega) hσ hτ
    · intro σ
      constructor
      · rintro (hσ | ⟨i, hi, hσ⟩)
        · exact ⟨0, by simp, hσ⟩
        · exact ⟨i + 1, by simpa using hi, hσ⟩
      · rintro ⟨_ | i, hi, hσ⟩
        · exact Or.inl hσ
        · exact Or.inr ⟨i, by simpa using hi, hσ⟩

/-- Findings stay as they are when their sites are seen from further up. -/
private theorem Lists.under {P : Site → Prop} {fs : List Finding} (h : Lists P fs) (s : Step) :
    Lists (fun σ => ∃ τ, P τ ∧ σ = τ.under s) fs := by
  obtain ⟨sites, hsorted, hmem, hreports⟩ := h
  refine ⟨sites.map (Site.under s), ?_, ?_, ?_⟩
  · exact List.Pairwise.map _ (fun σ τ h => h.under s) hsorted
  · intro σ
    rw [List.mem_map]
    constructor
    · rintro ⟨τ, hτ, rfl⟩
      obtain ⟨hP, f, hf⟩ := (hmem τ).mp hτ
      exact ⟨⟨τ, hP, rfl⟩, f, Site.reports_under.mpr hf⟩
    · rintro ⟨⟨τ, hP, rfl⟩, f, hf⟩
      exact ⟨τ, (hmem τ).mpr ⟨hP, f, Site.reports_under.mp hf⟩, rfl⟩
  · rw [List.forall₂_map_left_iff]
    exact hreports.imp fun σ f h => Site.reports_under.mpr h

private theorem lists_singleton {σ : Site} {f : Finding} (h : σ.Reports f) : Lists (· = σ) [f] := by
  refine ⟨[σ], List.pairwise_singleton _ _, ?_, .cons h .nil⟩
  intro τ
  rw [List.mem_singleton]
  constructor
  · rintro rfl
    exact ⟨rfl, f, h⟩
  · exact And.left

/-- A site that reports nothing has no findings. -/
private theorem lists_of_silent {σ : Site} (h : ∀ f, ¬ σ.Reports f) : Lists (· = σ) [] := by
  refine ⟨[], .nil, ?_, .nil⟩
  rintro τ
  constructor
  · intro hτ
    cases hτ
  · rintro ⟨rfl, f, hf⟩
    exact absurd hf (h f)

/-! ## The findings of a field -/

/-- `ofAbsent` lists what the site of an absent field reports. -/
private theorem lists_ofAbsent {σ : Site} (h : σ.mapping.get? σ.name = none) :
    Lists (· = σ) (ofAbsent σ.mapping σ.name σ.field) := by
  unfold ofAbsent
  split
  · next hrequired => exact lists_singleton (.missingRequired h hrequired)
  · next hrequired =>
    split
    · next hrecommended =>
      rw [SchemaNode.isRecommended, Bool.and_eq_true] at hrecommended
      exact lists_singleton (.missingRecommended h (by simpa using hrequired) hrecommended.2)
    · next hrecommended =>
      -- neither required nor recommended, so that no constructor of `Reports` applies
      apply lists_of_silent
      rintro f (⟨-, hr⟩ | ⟨-, ho, hr⟩ | ⟨hv, -, -, -⟩)
      · exact hrequired hr
      · exact hrecommended (by simp [SchemaNode.isRecommended, ho, hr])
      · rw [h] at hv
        cases hv

/-- `ofValue` lists what the site of a field with a value reports. -/
private theorem lists_ofValue {σ : Site} {value : Node} (h : σ.mapping.get? σ.name = some value) :
    Lists (· = σ) (ofValue value σ.name σ.field) := by
  -- only a field with a default value can be reported
  have hsilent (hno : ∀ d, σ.field.info.default? = some d →
      (σ.field.info.recommended && d.same value.toJson) = false) : ∀ f, ¬ σ.Reports f := by
    rintro f (⟨ha, -⟩ | ⟨ha, -, -⟩ | ⟨hv, hr, hd, hs⟩)
    · rw [h] at ha
      cases ha
    · rw [h] at ha
      cases ha
    · rw [h] at hv
      cases hv
      have := hno _ hd
      simp [hr, hs] at this
  unfold ofValue
  split
  · next d hd =>
    split
    · next hsame =>
      rw [Bool.and_eq_true] at hsame
      exact lists_singleton (.setToDefault h hsame.1 hd hsame.2)
    · next hsame =>
      apply lists_of_silent (hsilent _)
      intro d' hd'
      rw [hd] at hd'
      cases hd'
      simpa using hsame
  · next hd =>
    apply lists_of_silent (hsilent _)
    intro d hd'
    rw [hd] at hd'
    cases hd'

/-- The sites in the value of a field, seen from the mapping of the field. -/
def IsSiteInside (field : SchemaNode) (value : Node) (i : Nat) (name : String) (σ : Site) : Prop :=
  ∃ item? m nested τ, Inside field value item? m nested ∧ IsSite m nested τ ∧
    σ = τ.under ⟨i, name, item?⟩

/-- A sequence is no object. -/
private theorem shape?_ne_some_of_element {field : SchemaNode} {nested : Shape}
    (h : field.element?.bind SchemaNode.shape? = some nested) (shape : Shape) :
    field.shape? ≠ some shape := by
  intro hshape
  cases field with
  | scalar info type => cases hshape
  | sequence info element => cases hshape
  | object info fields => cases h

/-- `below` lists the sites in the value of a field if `ofLevel` lists those of the levels below the
field. -/
private theorem lists_below {field : SchemaNode}
    (ih : ∀ nested,
      field.shape? = some nested ∨ field.element?.bind SchemaNode.shape? = some nested →
        ∀ m, Lists (IsSite m nested) (ofLevel m nested))
    (value : Node) (i : Nat) (name : String) :
    Lists (IsSiteInside field value i name) (below value field) := by
  by_cases hinside : ∃ item? m nested, Inside field value item? m nested
  · obtain ⟨item?, m, nested, hinside⟩ := hinside
    -- what is inside of an object is the value itself, what is inside of a sequence are its items
    cases hinside with
    | object hshape =>
      rw [below_of_shape? hshape]
      refine ((ih nested (.inl hshape) value).under ⟨i, name, none⟩).congr ?_
      intro σ
      constructor
      · rintro ⟨τ, hτ, rfl⟩
        exact ⟨none, value, nested, τ, .object hshape, hτ, rfl⟩
      · rintro ⟨item?, m, nested', τ, hinside, hτ, rfl⟩
        cases hinside with
        | object hshape' =>
          rw [hshape] at hshape'
          cases hshape'
          exact ⟨τ, hτ, rfl⟩
        | entry helement =>
          exact absurd hshape (shape?_ne_some_of_element helement nested)
    | @entry _ items _ _ helement hitems _ =>
      rw [below_of_items helement hitems]
      -- the sites in the items are told apart by the places of the items
      let P (j : Nat) (σ : Site) : Prop := ∃ item τ, items[j]? = some item ∧ IsSite item nested τ ∧
        σ = τ.under ⟨i, name, some j⟩
      have hitem : ∀ j item, items[j]? = some item → Lists (P j) (ofLevel item nested) := by
        intro j item hj
        refine ((ih nested (.inr helement) item).under ⟨i, name, some j⟩).congr ?_
        intro σ
        constructor
        · rintro ⟨τ, hτ, rfl⟩
          exact ⟨item, τ, hj, hτ, rfl⟩
        · rintro ⟨item', τ, hj', hτ, rfl⟩
          rw [hj] at hj'
          cases hj'
          exact ⟨τ, hτ, rfl⟩
      refine (Lists.flatMap hitem ?_).congr ?_
      · rintro j k σ τ hjk ⟨-, σ', -, -, rfl⟩ ⟨-, τ', -, -, rfl⟩
        rw [Site.Before, Site.address_under, Site.address_under]
        exact .cons (.rel hjk)
      · intro σ
        constructor
        · rintro ⟨j, -, item, τ, hj, hτ, rfl⟩
          exact ⟨some j, item, nested, τ, .entry helement hitems hj, hτ, rfl⟩
        · rintro ⟨item?, m, nested', τ, hinside, hτ, rfl⟩
          cases hinside with
          | object hshape => exact absurd hshape (shape?_ne_some_of_element helement nested')
          | @entry _ _ j _ helement' hitems' hj =>
            rw [helement] at helement'
            rw [hitems] at hitems'
            cases helement'
            cases hitems'
            exact ⟨j, (List.getElem?_eq_some_iff.mp hj).1, m, τ, hj, hτ, rfl⟩
  · have hnone : ∀ item? m nested, ¬ Inside field value item? m nested := by
      intro item? m nested h
      exact hinside ⟨item?, m, nested, h⟩
    rw [below_eq_nil hnone]
    apply lists_nil
    rintro σ ⟨item?, m, nested, -, h, -⟩
    exact hnone item? m nested h

/-- The sites that a field of a mapping brings: the field itself and those below it. -/
def IsSiteOf (n : Node) (i : Nat) (name : String) (field : SchemaNode) (σ : Site) : Prop :=
  σ = ⟨[], n, i, name, field⟩ ∨
    ∃ value, n.get? name = some value ∧ IsSiteInside field value i name σ

/-- The address of every site that a field brings starts with the place of the field. -/
private theorem IsSiteOf.head?_address {n : Node} {i : Nat} {name : String} {field : SchemaNode}
    {σ : Site} (h : IsSiteOf n i name field σ) : σ.address.head? = some i := by
  rcases h with rfl | ⟨value, -, item?, m, nested, τ, -, -, rfl⟩
  · rfl
  · rw [Site.address_under]
    rfl

/-- `ofField` lists the sites that the field brings. -/
private theorem lists_ofField {field : SchemaNode}
    (ih : ∀ nested,
      field.shape? = some nested ∨ field.element?.bind SchemaNode.shape? = some nested →
        ∀ m, Lists (IsSite m nested) (ofLevel m nested))
    (n : Node) (i : Nat) (name : String) :
    Lists (IsSiteOf n i name field) (ofField n name field) := by
  let own : Site := ⟨[], n, i, name, field⟩
  rw [ofField]
  cases hget : n.get? name with
  | none =>
    refine (lists_ofAbsent (σ := own) hget).congr ?_
    intro σ
    constructor
    · exact Or.inl
    · rintro (hσ | ⟨value, hvalue, -⟩)
      · exact hσ
      · rw [hget] at hvalue
        cases hvalue
  | some value =>
    refine ((lists_ofValue (σ := own) hget).append (lists_below ih value i name) ?_).congr ?_
    · -- the address of the field itself is the beginning of all others
      rintro σ τ rfl ⟨item?, m, nested, τ', -, -, rfl⟩
      rw [Site.Before, Site.address_under]
      refine .cons ?_
      cases item? with
      | none =>
        cases haddress : τ'.address with
        | nil => simp [Site.address] at haddress
        | cons a as => exact .nil
      | some j => exact .nil
    · intro σ
      constructor
      · rintro (hσ | hσ)
        · exact Or.inl hσ
        · exact Or.inr ⟨value, hget, hσ⟩
      · rintro (hσ | ⟨value', hvalue, hσ⟩)
        · exact Or.inl hσ
        · rw [hget] at hvalue
          cases hvalue
          exact Or.inr hσ

/-! ## The findings of a document -/

/-- The sites of a mapping are those that its fields bring. -/
private theorem isSite_iff {n : Node} (h : n.entries?.isSome) {level : Shape} {σ : Site} :
    IsSite n level σ ↔
      ∃ i name field, level[i]? = some (name, field) ∧ IsSiteOf n i name field σ := by
  constructor
  · obtain ⟨route, mapping, position, name, field⟩ := σ
    rintro ⟨inner, hreaches, hmapping, hfield⟩
    -- a route is empty, or its first step goes through one of the fields
    cases hreaches with
    | here => exact ⟨position, name, field, hfield, Or.inl rfl⟩
    | step hstep hroute =>
      obtain ⟨hlevel, hvalue, hinside⟩ := hstep
      exact ⟨_, _, _, hlevel, Or.inr ⟨_, hvalue, _, _, _, ⟨_, mapping, position, name, field⟩,
        hinside, ⟨inner, hroute, hmapping, hfield⟩, rfl⟩⟩
  · rintro ⟨i, name, field, hlevel, rfl | ⟨value, hvalue, item?, m, nested, τ, hinside, hτ, rfl⟩⟩
    · exact ⟨level, .here n level, h, hlevel⟩
    · obtain ⟨inner, hroute, hmapping, hfield⟩ := hτ
      exact ⟨inner, .step (.intro hlevel hvalue hinside) hroute, hmapping, hfield⟩

/-- A node that is no mapping has no sites. -/
private theorem not_isSite {n : Node} (h : n.entries? = none) (level : Shape) (σ : Site) :
    ¬ IsSite n level σ := by
  obtain ⟨route, mapping, position, name, field⟩ := σ
  rintro ⟨inner, hreaches, hmapping, -⟩
  cases hreaches with
  | here => simp [h] at hmapping
  | step hstep hroute =>
    obtain ⟨-, hvalue, -⟩ := hstep
    have := isSome_entries?_of_get? hvalue
    simp [h] at this

/-- `ofLevel` lists the sites that are reached from a node. -/
theorem lists_ofLevel (n : Node) (level : Shape) : Lists (IsSite n level) (ofLevel n level) := by
  induction level using Shape.induction generalizing n with
  | level level ih =>
    cases hmapping : n.entries? with
    | none =>
      rw [ofLevel_eq_nil hmapping]
      exact lists_nil (not_isSite hmapping level)
    | some entries =>
      have hsome : n.entries?.isSome := by rw [hmapping]; rfl
      rw [ofLevel_eq_flatMap hsome]
      -- the sites are told apart by the place of the field that brings them
      let P (i : Nat) (σ : Site) : Prop :=
        ∃ name field, level[i]? = some (name, field) ∧ IsSiteOf n i name field σ
      have hfield : ∀ i f, level[i]? = some f → Lists (P i) (ofField n f.1 f.2) := by
        rintro i ⟨name, field⟩ hi
        have hnested := fun nested h m =>
          ih name field nested (List.mem_of_getElem? hi) h m
        refine (lists_ofField hnested n i name).congr ?_
        intro σ
        constructor
        · intro hσ
          exact ⟨name, field, hi, hσ⟩
        · rintro ⟨name', field', hi', hσ⟩
          rw [hi] at hi'
          cases hi'
          exact hσ
      refine (Lists.flatMap hfield ?_).congr ?_
      · rintro i j σ τ hij ⟨_, _, -, hσ⟩ ⟨_, _, -, hτ⟩
        exact Site.before_of_head hσ.head?_address hτ.head?_address hij
      · intro σ
        rw [isSite_iff hsome]
        constructor
        · rintro ⟨i, -, hσ⟩
          exact ⟨i, hσ⟩
        · rintro ⟨i, name, field, hi, hσ⟩
          exact ⟨i, (List.getElem?_eq_some_iff.mp hi).1, name, field, hi, hσ⟩

/-- A member of a list has a partner in a list that is matched with it. -/
theorem exists_of_mem_of_forall₂ {α β : Type} {R : α → β → Prop} {xs : List α} {ys : List β}
    (h : List.Forall₂ R xs ys) {x : α} (hx : x ∈ xs) : ∃ y ∈ ys, R x y := by
  induction h with
  | nil => cases hx
  | cons hxy _ ih =>
    rcases List.mem_cons.mp hx with rfl | hx
    · exact ⟨_, List.mem_cons_self, hxy⟩
    · obtain ⟨y, hy, hR⟩ := ih hx
      exact ⟨y, List.mem_cons_of_mem _ hy, hR⟩

/-- A site reports an error only if a required field is not there. -/
theorem Site.Reports.of_error {σ : Site} {f : Finding} (h : σ.Reports f)
    (hcode : f.code = "KEY_ERROR") :
    σ.mapping.get? σ.name = none ∧ σ.field.isRequired = true := by
  cases h with
  | missingRequired habsent hrequired => exact ⟨habsent, hrequired⟩
  | missingRecommended => simp [code] at hcode
  | setToDefault => simp [code] at hcode

/-- All that a site with a missing required field reports is an error. -/
theorem Site.Reports.code_of_required {σ : Site} {f : Finding} (h : σ.Reports f)
    (habsent : σ.mapping.get? σ.name = none) (hrequired : σ.field.isRequired = true) :
    f.code = "KEY_ERROR" := by
  cases h with
  | missingRequired => rfl
  | missingRecommended _ hoptional => simp [hrequired] at hoptional
  | setToDefault hvalue => simp [habsent] at hvalue

/-- The findings about a document are what its sites report: one for each site that reports
something, in the order of the addresses. No required field is reported exactly if every mapping
that is reached has all required fields of its level. -/
theorem ofLevel_findings (root : Node) (shape : Shape) :
    (∃ sites : List Site,
      sites.Pairwise (fun σ τ => List.Lex (· < ·) σ.address τ.address) ∧
      (∀ σ, σ ∈ sites ↔ IsSite root shape σ ∧ ∃ f, σ.Reports f) ∧
      List.Forall₂ Site.Reports sites (ofLevel root shape)) ∧
    ((∀ f ∈ ofLevel root shape, f.code ≠ "KEY_ERROR") ↔
      ∀ route n level, Reaches root shape route n level → n.entries?.isSome →
        ∀ name field, (name, field) ∈ level → field.isRequired → (n.get? name).isSome) := by
  obtain ⟨sites, hsorted, hmem, hreports⟩ := lists_ofLevel root shape
  refine ⟨⟨sites, hsorted, hmem, hreports⟩, ?_, ?_⟩
  · -- a mapping without a required field is a site, and its finding would be an error
    intro hclean route n level hreaches hmapping name field hfield hrequired
    by_contra habsent
    rw [Option.not_isSome_iff_eq_none] at habsent
    obtain ⟨i, hi⟩ := List.mem_iff_getElem?.mp hfield
    let σ : Site := ⟨route, n, i, name, field⟩
    have hσ : σ ∈ sites :=
      (hmem σ).mpr ⟨⟨level, hreaches, hmapping, hi⟩, _, .missingRequired habsent hrequired⟩
    obtain ⟨f, hf, hσf⟩ := exists_of_mem_of_forall₂ hreports hσ
    exact hclean f hf (hσf.code_of_required habsent hrequired)
  · -- an error comes from a site, and the required field of that site is absent
    intro hcomplete f hf hcode
    obtain ⟨σ, hσ, hσf⟩ := exists_of_mem_of_forall₂ hreports.flip hf
    obtain ⟨⟨level, hreaches, hmapping, hi⟩, -⟩ := (hmem σ).mp hσ
    obtain ⟨habsent, hrequired⟩ := hσf.of_error hcode
    have := hcomplete σ.route σ.mapping level hreaches hmapping σ.name σ.field
      (List.mem_of_getElem? hi) hrequired
    simp [habsent] at this

/-- A field that has to be there. -/
def nameField : SchemaNode := .scalar (.bare .required) .string

/-- A recommended field with a default. -/
def countField : SchemaNode := .scalar ⟨.optional, true, none, some (.int 1), none, []⟩ .integer

/-- The level of a part: a name and a count. -/
def partLevel : Shape := [("name", nameField), ("count", countField)]

/-- A sequence of objects. -/
def partsField : SchemaNode :=
  .sequence (.bare .optional) (.object (.bare .unspecified) partLevel)

/-- The level of a stock: a name, a count and parts. -/
def stockLevel : Shape := [("name", nameField), ("count", countField), ("parts", partsField)]

/-- The mapping `{name: a}`. -/
def uncountedPart : Node :=
  .mapping [(.plain "name" ⟨20, 24⟩, .plain "a" ⟨26, 27⟩)] ⟨19, 28⟩

/-- The mapping `{count: 1, parts: [{name: a}]}`. -/
def stockNode : Node :=
  .mapping [(.plain "count" ⟨1, 6⟩, .plain "1" ⟨8, 9⟩),
    (.plain "parts" ⟨11, 16⟩, .sequence [uncountedPart] ⟨18, 29⟩)] ⟨0, 30⟩

/-- All that `ofLevel` finds in the part is that its count is missing. -/
private theorem ofLevel_uncountedPart :
    ofLevel uncountedPart partLevel = [⟨.missingRecommended "count", ⟨19, 20⟩⟩] := by
  have hname : uncountedPart.get? "name" = some (.plain "a" ⟨26, 27⟩) := rfl
  have hcount : uncountedPart.get? "count" = none := rfl
  rw [ofLevel_eq_flatMap rfl, partLevel, nameField]
  simp only [List.flatMap_cons, List.flatMap_nil, ofField, hname, hcount, below]
  rfl

/-- The part has no count, and the stock has no name and the default count. -/
theorem ofLevel_stockNode :
    ofLevel stockNode stockLevel =
        [⟨.missingRequired "name", ⟨0, 1⟩⟩, ⟨.setToDefault "count", ⟨8, 9⟩⟩,
          ⟨.missingRecommended "count", ⟨19, 20⟩⟩] ∧
      ∃ sites : List Site,
        sites.Pairwise (fun σ τ => List.Lex (· < ·) σ.address τ.address) ∧
        (∀ σ, σ ∈ sites ↔ IsSite stockNode stockLevel σ ∧ ∃ f, σ.Reports f) ∧
        List.Forall₂ Site.Reports sites (ofLevel stockNode stockLevel) := by
  refine ⟨?_, (ofLevel_findings stockNode stockLevel).1⟩
  have hname : ofField stockNode "name" nameField = [⟨.missingRequired "name", ⟨0, 1⟩⟩] := by
    have hget : stockNode.get? "name" = none := rfl
    simp only [ofField, hget]
    rfl
  have hcount : ofField stockNode "count" countField = [⟨.setToDefault "count", ⟨8, 9⟩⟩] := by
    have hget : stockNode.get? "count" = some (.plain "1" ⟨8, 9⟩) := rfl
    have hsame : Json.same (.int 1) (Node.plain "1" ⟨8, 9⟩).toJson = true := by decide +kernel
    simp only [ofField, hget, ofValue, countField, SchemaNode.info, hsame, below, Bool.and_self]
    rfl
  have hparts : ofField stockNode "parts" partsField =
      [⟨.missingRecommended "count", ⟨19, 20⟩⟩] := by
    have hget : stockNode.get? "parts" = some (.sequence [uncountedPart] ⟨18, 29⟩) := rfl
    have hbelow : below (.sequence [uncountedPart] ⟨18, 29⟩) partsField =
        [⟨.missingRecommended "count", ⟨19, 20⟩⟩] := by
      refine (below_of_items rfl rfl).trans ?_
      rw [List.flatMap_singleton]
      exact ofLevel_uncountedPart
    simp only [ofField, hget, hbelow]
    rfl
  rw [ofLevel_eq_flatMap rfl, stockLevel]
  simp only [List.flatMap_cons, List.flatMap_nil, hname, hcount, hparts]
  rfl

end PrimitiveDesk.Finding
