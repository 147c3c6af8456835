import PrimitiveDesk.Project.Registry
import PrimitiveDesk.Proofs.Files.SamePlace

/-!
# The cells of the registry

What the steps of the registry (`reserve`, `settle` and `storeSchema`) do to the projects that can
be seen in it with `get?` and `projects`. Roots count by their steps (`Path.same`), so that a root
may be written in several ways and still have one cell. No step removes a cell or puts another
project into it (`Grows`).
-/

namespace PrimitiveDesk

namespace Registry

variable {r : Registry} {root root' : Path} {p : Project}

/-! ## Finding a cell -/

private theorem cell?_congr (h : root.same root' = true) (r : Registry) :
    r.cell? root = r.cell? root' := by
  simp only [cell?, Path.same_congr h]

theorem get?_congr (h : root.same root' = true) (r : Registry) : r.get? root = r.get? root' := by
  rw [get?, get?, cell?_congr h]

theorem get?_eq_some_iff : r.get? root = some p ↔ r.cell? root = some (some p) := by
  rw [get?, Option.join_eq_some_iff]

theorem get?_eq_none_of_cell? (h : r.cell? root = some none) : r.get? root = none := by
  simp [get?, h]

/-- A cell in which `get?` finds nothing is empty. -/
theorem cell?_eq_some_none (h : (r.cell? root).isSome = true) (hnone : r.get? root = none) :
    r.cell? root = some none := by
  obtain ⟨project?, hcell⟩ := Option.isSome_iff_exists.mp h
  simp only [get?, hcell, Option.join_some] at hnone
  rw [hcell, hnone]

/-! ## The steps -/

/-- After `reserve` there is a cell for the root. -/
theorem isSome_cell?_reserve (r : Registry) (root : Path) :
    ((r.reserve root).cell? root).isSome = true := by
  unfold reserve
  split
  · assumption
  · next hnone =>
    have hfind : r.cells.find? (fun c => c.1.same root) = none := by simpa [cell?] using hnone
    simp [cell?, List.find?_append, hfind]

/-- `reserve` may add an empty cell, and the others stay. -/
theorem cell?_reserve (r : Registry) (root root' : Path) :
    (r.reserve root).cell? root' = r.cell? root' ∨
      r.cell? root' = none ∧ (r.reserve root).cell? root' = some none := by
  unfold reserve
  split
  · exact .inl rfl
  · -- a cell that is there already is found before the new one
    cases hfind : r.cells.find? (fun c => c.1.same root') with
    | some c => exact .inl (by simp [cell?, List.find?_append, hfind])
    | none =>
      cases hsame : root.same root' with
      | true => exact .inr (by simp [cell?, List.find?_append, hfind, hsame])
      | false => exact .inl (by simp [cell?, List.find?_append, hfind, hsame])

/-- `reserve` changes nothing that `get?` finds. -/
@[simp] theorem get?_reserve (r : Registry) (root root' : Path) :
    (r.reserve root).get? root' = r.get? root' := by
  obtain h | ⟨hnone, h⟩ := cell?_reserve r root root'
  · rw [get?, h, get?]
  · simp [get?, hnone, h]

/-- `reserve` changes nothing that `projects` lists. -/
@[simp] theorem projects_reserve (r : Registry) (root : Path) :
    (r.reserve root).projects = r.projects := by
  unfold reserve
  split
  · rfl
  · simp [projects]

/-- `modify` changes the cell of its root and no other. -/
theorem cell?_modify (r : Registry) (root root' : Path) (f : Option Project → Option Project) :
    (r.modify root f).cell? root' =
      if root.same root' then (r.cell? root').map f else r.cell? root' := by
  -- the change leaves the roots, so the same cell is found before and after
  have hroots : ((fun c : Path × Option Project => c.1.same root') ∘
      fun c : Path × Option Project => if c.1.same root then (c.1, f c.2) else c) =
        fun c => c.1.same root' := by
    funext c
    simp only [Function.comp]
    split <;> rfl
  simp only [cell?, modify, List.find?_map, hroots]
  cases hfind : r.cells.find? (fun c => c.1.same root') with
  | none => simp
  | some c =>
    -- the cell that is found has the same root, so the change applies to both or to none
    have hc : c.1.same root' = true := by simpa using List.find?_some hfind
    have heq : c.1.same root = root.same root' := by
      rw [Path.same_comm, Path.same_congr hc]
    simp only [Option.map_some, heq]
    split <;> rfl

/-- `settle` fills an empty cell. -/
theorem get?_settle (h : r.cell? root = some none) (root' : Path) :
    (r.settle root p).get? root' = if root.same root' then some p else r.get? root' := by
  simp only [get?, settle, cell?_modify]
  split
  · next hsame => simp [← cell?_congr hsame, h]
  · rfl

/-- `storeSchema` changes the schema of the project at its root and no other. -/
theorem get?_storeSchema (r : Registry) (root : Path) (s : ProjectSchema) (root' : Path) :
    (r.storeSchema root s).get? root' =
      if root.same root' then (r.get? root').map fun p => { p with schema := s }
      else r.get? root' := by
  simp only [get?, storeSchema, cell?_modify]
  split
  · cases r.cell? root' <;> rfl
  · rfl

/-- `getOrLoad` reads a project that is not there. -/
theorem getOrLoad_of_get?_eq_none {read : Path → Except SystemError String}
    {places : ProjectPlaces} (h : r.get? places.root = none) :
    (r.getOrLoad read places).1 = (places.readSchema read).map fun s => ⟨places, s⟩ := by
  simp only [getOrLoad, get?_reserve, h]
  cases places.readSchema read <;> rfl

/-! ## One cell for each root -/

/-- No two cells have the same root. -/
def Distinct (r : Registry) : Prop := r.cells.Pairwise fun c d => c.1.same d.1 = false

/-- `reserve` adds a cell only if there is none for the root. -/
theorem distinct_reserve (h : r.Distinct) (root : Path) : (r.reserve root).Distinct := by
  unfold reserve
  split
  · exact h
  · next hnone =>
    have hfree : ∀ c ∈ r.cells, c.1.same root = false := by
      simpa [cell?, List.find?_eq_none] using hnone
    exact List.pairwise_append.mpr ⟨h, List.pairwise_singleton _ _, by simpa using hfree⟩

/-- `modify` leaves the roots as they are. -/
theorem distinct_modify (h : r.Distinct) (root : Path) (f : Option Project → Option Project) :
    (r.modify root f).Distinct := by
  refine List.pairwise_map.mpr (h.imp ?_)
  intro c d hcd
  split <;> split <;> exact hcd

/-- Every cell is the one that is found for its root. -/
theorem Distinct.cell?_of_mem (h : r.Distinct) {c : Path × Option Project} (hc : c ∈ r.cells) :
    r.cell? c.1 = some c.2 := by
  obtain ⟨front, back, hcells⟩ := List.append_of_mem hc
  -- no cell in front of it has the same root
  have hfront : ∀ d ∈ front, d.1.same c.1 = false := by
    unfold Distinct at h
    rw [hcells] at h
    exact fun d hd => (List.pairwise_append.mp h).2.2 d hd c (by simp)
  have hnone : front.find? (fun d => d.1.same c.1) = none := by simpa using hfront
  simp [cell?, hcells, List.find?_append, hnone]

/-- `projects` lists those that `get?` finds for some root. -/
theorem mem_projects_iff (h : r.Distinct) : p ∈ r.projects ↔ ∃ root, r.get? root = some p := by
  simp only [projects, List.mem_filterMap, get?_eq_some_iff]
  constructor
  · rintro ⟨c, hc, hp⟩
    exact ⟨c.1, by rw [h.cell?_of_mem hc, hp]⟩
  · rintro ⟨root, hcell⟩
    obtain ⟨c, hfind, hp⟩ := Option.map_eq_some_iff.mp hcell
    exact ⟨c, List.mem_of_find?_eq_some hfind, hp⟩

/-! ## What never is undone -/

/-- Cells are not removed, and a cell keeps its project, up to the schema. -/
structure Grows (r r' : Registry) : Prop where
  cell : ∀ {root}, (r.cell? root).isSome = true → (r'.cell? root).isSome = true
  get : ∀ {root p}, r.get? root = some p → ∃ p', r'.get? root = some p' ∧ p'.places = p.places

theorem Grows.refl (r : Registry) : r.Grows r := ⟨id, fun h => ⟨_, h, rfl⟩⟩

/-- `reserve` undoes nothing. -/
theorem grows_reserve (r : Registry) (root : Path) : r.Grows (r.reserve root) where
  cell {root'} h := by
    obtain heq | ⟨hnone, -⟩ := cell?_reserve r root root'
    · rw [heq]
      exact h
    · simp [hnone] at h
  get h := ⟨_, by rw [get?_reserve, h], rfl⟩

private theorem isSome_cell?_modify (r : Registry) (root root' : Path)
    (f : Option Project → Option Project) :
    ((r.modify root f).cell? root').isSome = (r.cell? root').isSome := by
  rw [cell?_modify]
  split <;> simp

/-- `settle` undoes nothing, for it fills an empty cell. -/
theorem grows_settle (h : r.cell? root = some none) (p : Project) :
    r.Grows (r.settle root p) where
  cell h := by rwa [settle, isSome_cell?_modify]
  get {root' p'} hp' := by
    rw [get?_settle h]
    split
    · next hsame =>
      -- the cell that is filled was empty
      rw [← get?_congr hsame, get?_eq_none_of_cell? h] at hp'
      cases hp'
    · exact ⟨p', hp', rfl⟩

/-- `storeSchema` keeps the project up to its schema. -/
theorem grows_storeSchema (r : Registry) (root : Path) (s : ProjectSchema) :
    r.Grows (r.storeSchema root s) where
  cell h := by rwa [storeSchema, isSome_cell?_modify]
  get {root' p'} hp' := by
    rw [get?_storeSchema]
    split
    · exact ⟨{ p' with schema := s }, by simp [hp'], rfl⟩
    · exact ⟨p', hp', rfl⟩

end Registry

end PrimitiveDesk
