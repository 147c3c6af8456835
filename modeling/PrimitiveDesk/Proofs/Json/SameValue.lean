import Mathlib.Data.List.Forall2
import Mathlib.Data.List.Perm.Subperm
import PrimitiveDesk.Proofs.Assoc.Firsts
import PrimitiveDesk.Yaml.Node

/-!
# Equality of JSON values

`Json.same` compares objects by looking up the members of one side in the other. If no object
repeats a name, this is equality of values: objects are equal as maps, whatever the order of their
members, arrays are equal item by item, and the two zeros are equal (`Json.same_iff`). The value of
a node repeats no name (`Node.distinct_toJson`).
-/

namespace PrimitiveDesk.Json

open Assoc

/-- Equality of values. -/
inductive Equal : Json → Json → Prop
  | null : Equal .null .null
  | bool (b : Bool) : Equal (.bool b) (.bool b)
  | int (n : Int) : Equal (.int n) (.int n)
  | float (x : Binary64) : Equal (.float x) (.float x)
  /-- A zero equals the other one. -/
  | zero {x y : Binary64} (hx : x.significand = 0) (hy : y.significand = 0) :
    Equal (.float x) (.float y)
  | str (s : String) : Equal (.str s) (.str s)
  | arr {xs ys : List Json} (h : List.Forall₂ Equal xs ys) : Equal (.arr xs) (.arr ys)
  /-- Objects have the same names, and equal members under each of them. -/
  | obj {ms ns : Members} (hnames : ∀ name, name ∈ names ms ↔ name ∈ names ns)
    (h : ∀ name v w, find? ms name = some v → find? ns name = some w → Equal v w) :
    Equal (.obj ms) (.obj ns)

/-- No object in the value repeats a name. -/
inductive Distinct : Json → Prop
  | null : Distinct .null
  | bool (b : Bool) : Distinct (.bool b)
  | int (n : Int) : Distinct (.int n)
  | float (x : Binary64) : Distinct (.float x)
  | str (s : String) : Distinct (.str s)
  | arr {items : List Json} (h : ∀ j ∈ items, Distinct j) : Distinct (.arr items)
  | obj {ms : Members} (hnames : (names ms).Nodup) (h : ∀ m ∈ ms, Distinct m.2) :
    Distinct (.obj ms)

/-- `Binary64.sameValue` tells apart all numbers but the two zeros. -/
private theorem sameValue_iff {x y : Binary64} :
    x.sameValue y = true ↔ Equal (.float x) (.float y) := by
  rw [Binary64.sameValue, Bool.or_eq_true, Bool.and_eq_true, beq_iff_eq]
  constructor
  · rintro (⟨hx, hy⟩ | rfl)
    · exact .zero (beq_iff_eq.mp hx) (beq_iff_eq.mp hy)
    · exact .float x
  · intro h
    cases h with
    | float => exact .inr rfl
    | zero hx hy => exact .inl ⟨beq_iff_eq.mpr hx, beq_iff_eq.mpr hy⟩

/-- Looking up the members of one object in another one of the same size compares the two as
maps. -/
private theorem members_iff {ms ns : Members} (hms : (names ms).Nodup) (hns : (names ns).Nodup) :
    (ms.length = ns.length ∧ ∀ m ∈ ms, ∃ w, find? ns m.1 = some w ∧ Equal m.2 w) ↔
      Equal (.obj ms) (.obj ns) := by
  have hlength : ∀ l : Members, (names l).length = l.length := fun l => List.length_map _
  constructor
  · rintro ⟨hsize, hfind⟩
    have hsub : names ms ⊆ names ns := by
      intro name hname
      obtain ⟨m, hm, rfl⟩ := List.mem_map.mp hname
      obtain ⟨w, hw, -⟩ := hfind m hm
      have hmem : (m.1, w) ∈ ns := mem_of_find? hw
      exact List.mem_map.mpr ⟨_, hmem, rfl⟩
    -- as many names without repetitions, all of them among those of the other side
    have hle : (names ns).length ≤ (names ms).length := by
      have := hlength ms
      have := hlength ns
      omega
    have hperm : (names ms).Perm (names ns) :=
      (List.Nodup.subperm hms hsub).perm_of_length_le hle
    refine .obj (fun name => hperm.mem_iff) ?_
    intro name v w hv hw
    obtain ⟨w', hw', hequal⟩ := hfind (name, v) (mem_of_find? hv)
    exact Option.some.inj (hw'.symm.trans hw) ▸ hequal
  · intro h
    cases h with
    | obj hnames hequal =>
      -- the same names without repetitions, so as many members
      have hperm : (names ms).Perm (names ns) := (List.perm_ext_iff_of_nodup hms hns).mpr hnames
      refine ⟨?_, ?_⟩
      · rw [← hlength, ← hlength, hperm.length_eq]
      · rintro ⟨name, v⟩ hm
        have hv : find? ms name = some v := find?_of_mem_of_nodup hms hm
        have hname : has ns name = true :=
          has_iff_mem_names.mpr ((hnames name).mp (List.mem_map_of_mem (f := Prod.fst) hm))
        obtain ⟨w, hw⟩ := Option.isSome_iff_exists.mp hname
        exact ⟨w, hw, hequal name v w hv hw⟩

mutual

/-- `same` is equality of values that repeat no names. -/
theorem same_iff : (a b : Json) → a.Distinct → b.Distinct → (a.same b = true ↔ a.Equal b)
  | .null, b, _, _ => by
    -- values of different kinds are neither the same nor equal
    cases b with
    | null => exact iff_of_true rfl .null
    | _ => exact iff_of_false (by simp [same]) nofun
  | .bool a, b, _, _ => by
    cases b with
    | bool b =>
      rw [same, beq_iff_eq]
      exact ⟨fun h => h ▸ .bool a, fun h => by cases h; rfl⟩
    | _ => exact iff_of_false (by simp [same]) nofun
  | .int m, b, _, _ => by
    cases b with
    | int n =>
      rw [same, beq_iff_eq]
      exact ⟨fun h => h ▸ .int m, fun h => by cases h; rfl⟩
    | _ => exact iff_of_false (by simp [same]) nofun
  | .float x, b, _, _ => by
    cases b with
    | float y =>
      rw [same]
      exact sameValue_iff
    | _ => exact iff_of_false (by simp [same]) nofun
  | .str s, b, _, _ => by
    cases b with
    | str t =>
      rw [same, beq_iff_eq]
      exact ⟨fun h => h ▸ .str s, fun h => by cases h; rfl⟩
    | _ => exact iff_of_false (by simp [same]) nofun
  | .arr xs, b, ha, hb => by
    cases b with
    | arr ys =>
      cases ha with
      | arr hxs =>
        cases hb with
        | arr hys =>
          rw [same, sameItems_iff xs ys hxs hys]
          exact ⟨.arr, fun h => by cases h with | arr h => exact h⟩
    | _ => exact iff_of_false (by simp [same]) nofun
  | .obj ms, b, ha, hb => by
    cases b with
    | obj ns =>
      cases ha with
      | obj hms hmembers =>
        cases hb with
        | obj hns hmembers' =>
          rw [same, Bool.and_eq_true, beq_iff_eq, sameMembers_iff ms ns hmembers hmembers']
          exact members_iff hms hns
    | _ => exact iff_of_false (by simp [same]) nofun

/-- `sameItems` is equality item by item. -/
private theorem sameItems_iff : (xs ys : List Json) → (∀ j ∈ xs, j.Distinct) →
    (∀ j ∈ ys, j.Distinct) → (sameItems xs ys = true ↔ List.Forall₂ Equal xs ys)
  | [], ys, _, _ => by
    cases ys with
    | nil => exact iff_of_true rfl .nil
    | cons y ys => exact iff_of_false (by simp [sameItems]) nofun
  | x :: xs, ys, hxs, hys => by
    cases ys with
    | nil => exact iff_of_false (by simp [sameItems]) nofun
    | cons y ys =>
      obtain ⟨hx, hxs⟩ := List.forall_mem_cons.mp hxs
      obtain ⟨hy, hys⟩ := List.forall_mem_cons.mp hys
      rw [sameItems, Bool.and_eq_true, same_iff x y hx hy, sameItems_iff xs ys hxs hys,
        List.forall₂_cons]

/-- `sameMembers` looks up each member of one side in the other. -/
private theorem sameMembers_iff : (ms ns : Members) → (∀ m ∈ ms, m.2.Distinct) →
    (∀ m ∈ ns, m.2.Distinct) → (sameMembers ms ns = true ↔
      ∀ m ∈ ms, ∃ w, find? ns m.1 = some w ∧ Equal m.2 w)
  | [], ns, _, _ => iff_of_true (by simp [sameMembers]) nofun
  | (name, v) :: ms, ns, hms, hns => by
    obtain ⟨hv, hms⟩ := List.forall_mem_cons.mp hms
    rw [sameMembers, Bool.and_eq_true, sameMembers_iff ms ns hms hns, List.forall_mem_cons]
    refine and_congr_left fun _ => ?_
    cases hfind : find? ns name with
    | none => simp
    | some w => simp [same_iff v w hv (hns _ (mem_of_find? hfind))]

end

end PrimitiveDesk.Json

namespace PrimitiveDesk.Yaml.Node

open Json Assoc

/-- The members repeat no name, and no value of theirs does. -/
private def DistinctMembers (ms : Json.Members) : Prop :=
  (names ms).Nodup ∧ ∀ m ∈ ms, m.2.Distinct

/-- `Assoc.set` repeats no name. -/
private theorem DistinctMembers.set {ms : Json.Members} (h : DistinctMembers ms) (name : String)
    {value : Json} (hvalue : value.Distinct) : DistinctMembers (Assoc.set ms name value) := by
  refine ⟨nodup_names_set h.1 name value, ?_⟩
  intro m hm
  rcases eq_or_mem_of_mem_set hm with heq | hmem
  · exact heq ▸ hvalue
  · exact h.2 m hmem

/-- Neither does `Assoc.setAbsent`. -/
private theorem DistinctMembers.setAbsent {ms : Json.Members} (h : DistinctMembers ms)
    (name : String) {value : Json} (hvalue : value.Distinct) :
    DistinctMembers (Assoc.setAbsent ms name value) := by
  unfold Assoc.setAbsent
  split
  · exact h
  · next hhas =>
    rw [has_iff_mem_names] at hhas
    rw [← set_of_not_mem hhas]
    exact h.set name hvalue

/-- Neither does `Assoc.extend`. -/
private theorem DistinctMembers.extend {ms : Json.Members} (h : DistinctMembers ms)
    {more : Json.Members} (hmore : ∀ m ∈ more, m.2.Distinct) :
    DistinctMembers (Assoc.extend ms more) := by
  unfold Assoc.extend
  induction more generalizing ms with
  | nil => exact h
  | cons m more ih =>
    obtain ⟨hm, hmore⟩ := List.forall_mem_cons.mp hmore
    exact ih (h.setAbsent m.1 hm) hmore

/-- Members that are set one after the other repeat no name. -/
private theorem distinctMembers_foldl_set {ms more : Json.Members} (h : DistinctMembers ms)
    (hmore : ∀ m ∈ more, m.2.Distinct) :
    DistinctMembers (more.foldl (fun l e => Assoc.set l e.1 e.2) ms) := by
  induction more generalizing ms with
  | nil => exact h
  | cons m more ih =>
    obtain ⟨hm, hmore⟩ := List.forall_mem_cons.mp hmore
    exact ih (h.set m.1 hm) hmore

/-- Members that are extended by others again and again repeat no name. -/
private theorem distinctMembers_foldl_extend {ms : Json.Members} {merged : List Json.Members}
    (h : DistinctMembers ms) (hmerged : ∀ more ∈ merged, ∀ m ∈ more, m.2.Distinct) :
    DistinctMembers (merged.foldl Assoc.extend ms) := by
  induction merged generalizing ms with
  | nil => exact h
  | cons more merged ih =>
    obtain ⟨hmore, hmerged⟩ := List.forall_mem_cons.mp hmerged
    exact ih (h.extend hmore) hmerged

/-- What a merged value brings in repeats no name if the value does not. -/
private theorem distinct_of_mem_sources {j : Json} (h : j.Distinct) {ms : Json.Members}
    (hms : ms ∈ sources j) : ∀ m ∈ ms, m.2.Distinct := by
  cases h with
  | obj hnames hmembers =>
    rw [sources, List.mem_singleton] at hms
    exact hms ▸ hmembers
  | arr hitems =>
    rw [sources, List.mem_filterMap] at hms
    obtain ⟨item, hitem, hmembers?⟩ := hms
    cases hitems item hitem with
    | obj hnames hmembers => exact Option.some.inj hmembers? ▸ hmembers
    | _ => cases hmembers?
  | _ => cases hms

/-- The members that `assemble` gives repeat no name. -/
private theorem distinctMembers_assemble {members : List Member}
    (h : ∀ m ∈ members, m.value.Distinct) : DistinctMembers (assemble members) := by
  unfold assemble
  -- the members that are written come first, then those that are merged in
  have hwritten : DistinctMembers (Assoc.ofList
      ((members.filter fun m => !m.merges).map fun m => (m.name, m.value))) := by
    unfold Assoc.ofList
    have hvalues : ∀ m ∈ (members.filter fun m => !m.merges).map fun m => (m.name, m.value),
        m.2.Distinct := by
      intro m hm
      obtain ⟨member, hmember, rfl⟩ := List.mem_map.mp hm
      exact h member (List.mem_filter.mp hmember).1
    exact distinctMembers_foldl_set ⟨.nil, nofun⟩ hvalues
  have hmerged : ∀ ms ∈ (members.filter fun m => m.merges).flatMap fun m => sources m.value,
      ∀ m ∈ ms, m.2.Distinct := by
    intro ms hms
    obtain ⟨member, hmember, hms⟩ := List.mem_flatMap.mp hms
    exact distinct_of_mem_sources (h member (List.mem_filter.mp hmember).1) hms
  exact distinctMembers_foldl_extend hwritten hmerged

private theorem distinct_scalar_toJson (v : Scalar) : v.toJson.Distinct := by
  unfold Scalar.toJson Scalar.resolve
  repeat' split
  all_goals constructor

mutual

/-- The value of a node repeats no name. -/
theorem distinct_toJson : (n : Node) → n.toJson.Distinct
  | scalar v _ => by
    rw [toJson]
    exact distinct_scalar_toJson v
  | sequence items _ => by
    rw [toJson]
    exact .arr (distinct_itemsToJson items)
  | mapping entries _ => by
    rw [toJson]
    obtain ⟨hnames, hmembers⟩ := distinctMembers_assemble (distinct_membersOf entries)
    exact .obj hnames hmembers

private theorem distinct_itemsToJson : (items : List Node) → ∀ j ∈ itemsToJson items, j.Distinct
  | [] => by
    rw [itemsToJson]
    exact nofun
  | n :: rest => by
    rw [itemsToJson]
    exact List.forall_mem_cons.mpr ⟨distinct_toJson n, distinct_itemsToJson rest⟩

private theorem distinct_membersOf : (entries : Entries) → ∀ m ∈ membersOf entries, m.value.Distinct
  | [] => by
    rw [membersOf]
    exact nofun
  | (k, v) :: rest => by
    unfold membersOf
    exact List.forall_mem_cons.mpr ⟨distinct_toJson v, distinct_membersOf rest⟩

end

/-- `same` compares a default that repeats no name with the value of a node. -/
theorem same_toJson_iff {default : Json} (h : default.Distinct) (n : Node) :
    default.same n.toJson = true ↔ default.Equal n.toJson :=
  same_iff default n.toJson h (distinct_toJson n)

end PrimitiveDesk.Yaml.Node
