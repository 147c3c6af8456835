import PrimitiveDesk.Proofs.Project.Cells
import PrimitiveDesk.Proofs.Project.SchemaPlaces

/-!
# Looking up the project of a file

A lookup may load the project of a file, and leaves the projects that are loaded as they are
(`Registry.projectFor?_of_discover?`). So as long as the files do not change, it makes no difference
to the schema that a file gets which other files were looked up before
(`Registry.Loads.schema_projectFor?`). That is not plain: the root of a file is kept as it was
written by the file that asked first, and a load that fails leaves the cell empty for another one to
fill.

`Registry.Loads` is what any number of lookups can do while the files stay as they are, and
`Registry.Keyed` says that every project is found at its own root only.
-/

namespace PrimitiveDesk

namespace Registry

open ProjectPlaces

variable {files : FileTree} {r r' r'' : Registry} {root file : Path} {p : Project}

/-! ## One lookup -/

/-- The project that `discover?` finds is there, or it is read, or it cannot be read and the cell
stays empty. -/
theorem projectFor?_of_discover? {places : ProjectPlaces}
    (h : discover? files.hasFile file = some places) (r : Registry) :
    (∃ p, r.get? places.root = some p ∧
        r.projectFor? files.hasFile files.textAt file = (some p, r.reserve places.root)) ∨
      r.get? places.root = none ∧
        ((∃ s, places.readSchema files.textAt = .ok s ∧
            r.projectFor? files.hasFile files.textAt file =
              (some ⟨places, s⟩, (r.reserve places.root).settle places.root ⟨places, s⟩)) ∨
          (places.readSchema files.textAt).toOption = none ∧
            r.projectFor? files.hasFile files.textAt file = (none, r.reserve places.root)) := by
  simp only [projectFor?, h, getOrLoad, get?_reserve]
  cases hget : r.get? places.root with
  | some p => exact .inl ⟨p, rfl, rfl⟩
  | none =>
    refine .inr ⟨rfl, ?_⟩
    cases hread : places.readSchema files.textAt with
    | ok s => exact .inl ⟨s, rfl, rfl⟩
    | error e => exact .inr ⟨rfl, rfl⟩

/-- `projectFor?` a file without a project changes nothing. -/
theorem projectFor?_of_discover?_eq_none (h : discover? files.hasFile file = none)
    (r : Registry) : r.projectFor? files.hasFile files.textAt file = (none, r) := by
  simp only [projectFor?, h]

/-- The cell that a load fills was empty. -/
private theorem get?_settle_reserve (h : r.get? root = none) (p : Project) (root' : Path) :
    ((r.reserve root).settle root p).get? root' =
      if root.same root' then some p else r.get? root' := by
  have hcell : (r.reserve root).cell? root = some none :=
    cell?_eq_some_none (isSome_cell?_reserve r root) (by rw [get?_reserve, h])
  rw [get?_settle hcell, get?_reserve]

/-- The schema that a file gets: that of the project in the cell of its root, or else the one that
is read. -/
theorem schema_projectFor? {places : ProjectPlaces}
    (h : discover? files.hasFile file = some places) (r : Registry) :
    (r.projectFor? files.hasFile files.textAt file).1.map (·.schema) =
      ((r.get? places.root).map (·.schema)).or (places.readSchema files.textAt).toOption := by
  obtain ⟨p, hget, hr⟩ | ⟨hget, ⟨s, hread, hr⟩ | ⟨hread, hr⟩⟩ := projectFor?_of_discover? h r
  · rw [hr, hget]
    rfl
  · rw [hr, hget, hread]
    rfl
  · rw [hr, hget, hread]
    rfl

/-- The project that a lookup gives is in the cell of its root afterwards. -/
theorem get?_of_projectFor? {places : ProjectPlaces}
    (h : discover? files.hasFile file = some places)
    (hp : (r.projectFor? files.hasFile files.textAt file).1 = some p) :
    (r.projectFor? files.hasFile files.textAt file).2.get? places.root = some p := by
  obtain ⟨p', hget, hr⟩ | ⟨hget, ⟨s, -, hr⟩ | ⟨-, hr⟩⟩ := projectFor?_of_discover? h r
  · rw [hr] at hp ⊢
    rw [get?_reserve, hget]
    exact hp
  · rw [hr] at hp ⊢
    rw [get?_settle_reserve hget, if_pos (Path.same_refl _)]
    exact hp
  · rw [hr] at hp
    cases hp

/-- A lookup that gives no project leaves all projects as they are. -/
theorem projects_of_projectFor?_eq_none
    (h : (r.projectFor? files.hasFile files.textAt file).1 = none) :
    (r.projectFor? files.hasFile files.textAt file).2.projects = r.projects := by
  cases hplaces : discover? files.hasFile file with
  | none => rw [projectFor?_of_discover?_eq_none hplaces]
  | some places =>
    obtain ⟨p, -, hr⟩ | ⟨-, ⟨s, -, hr⟩ | ⟨-, hr⟩⟩ := projectFor?_of_discover? hplaces r
    · rw [hr] at h
      cases h
    · rw [hr] at h
      cases h
    · rw [hr, projects_reserve]

/-! ## Any number of lookups -/

/-- What lookups can do while the files stay as they are: a cell keeps its project, and an empty one
may get the project that is found for some file at its root. -/
structure Loads (files : FileTree) (r r' : Registry) : Prop where
  distinct : r.Distinct → r'.Distinct
  get? : ∀ root, r'.get? root = r.get? root ∨
    r.get? root = none ∧ ∃ file places s, discover? files.hasFile file = some places ∧
      places.root.same root = true ∧ places.readSchema files.textAt = .ok s ∧
      r'.get? root = some ⟨places, s⟩

theorem Loads.refl (files : FileTree) (r : Registry) : r.Loads files r := ⟨id, fun _ => .inl rfl⟩

/-- Lookups after lookups. -/
theorem Loads.trans (h : r.Loads files r') (h' : r'.Loads files r'') : r.Loads files r'' where
  distinct hr := h'.distinct (h.distinct hr)
  get? root := by
    obtain heq' | ⟨hnone', file, places, s, hplaces, hsame, hread, hget⟩ := h'.get? root
    · rw [heq']
      exact h.get? root
    · obtain heq | ⟨-, _, _, _, -, -, -, hget'⟩ := h.get? root
      · exact .inr ⟨heq ▸ hnone', file, places, s, hplaces, hsame, hread, hget⟩
      · -- the first lookups have filled the cell already
        rw [hget'] at hnone'
        cases hnone'

/-- A cell that is made is empty. -/
private theorem loads_reserve (r : Registry) (root : Path) : r.Loads files (r.reserve root) :=
  ⟨fun h => distinct_reserve h root, fun root' => .inl (get?_reserve r root root')⟩

/-- `projectFor?` is one lookup. -/
theorem loads_projectFor? (r : Registry) (files : FileTree) (file : Path) :
    r.Loads files (r.projectFor? files.hasFile files.textAt file).2 := by
  cases hplaces : discover? files.hasFile file with
  | none =>
    rw [projectFor?_of_discover?_eq_none hplaces]
    exact .refl files r
  | some places =>
    obtain ⟨p, -, hr⟩ | ⟨hget, ⟨s, hread, hr⟩ | ⟨-, hr⟩⟩ := projectFor?_of_discover? hplaces r
    · rw [hr]
      exact loads_reserve r _
    · rw [hr]
      refine ⟨fun h => distinct_modify (distinct_reserve h _) _ _, fun root => ?_⟩
      rw [get?_settle_reserve hget]
      split
      -- the one cell that is settled was empty before
      · next hsame =>
        exact .inr ⟨by rw [← get?_congr hsame, hget], file, places, s, hplaces, hsame, hread, rfl⟩
      · exact .inl rfl
    · rw [hr]
      exact loads_reserve r _

/-- A project that is loaded stays. -/
theorem Loads.get?_eq_some (h : r.Loads files r') (hp : r.get? root = some p) :
    r'.get? root = some p := by
  obtain heq | ⟨hnone, -⟩ := h.get? root
  · rw [heq, hp]
  · rw [hp] at hnone
    cases hnone

/-- Lookups do not change what other lookups give, as long as the files stay as they are. -/
theorem Loads.schema_projectFor? (h : r.Loads files r') (file : Path) :
    (r'.projectFor? files.hasFile files.textAt file).1.map (·.schema) =
      (r.projectFor? files.hasFile files.textAt file).1.map (·.schema) := by
  cases hplaces : discover? files.hasFile file with
  | none =>
    rw [projectFor?_of_discover?_eq_none hplaces, projectFor?_of_discover?_eq_none hplaces]
  | some places =>
    rw [Registry.schema_projectFor? hplaces, Registry.schema_projectFor? hplaces]
    obtain heq | ⟨hnone, file', places', s, hplaces', hsame, hread, hget⟩ := h.get? places.root
    · rw [heq]
    · -- another file has filled the cell, and what it has read there is what would be read now
      have hsource := toOption_readSchema_of_same hplaces' hplaces hsame
      rw [hget, hnone, ← hsource, hread]
      rfl

/-! ## Projects at their roots -/

/-- Every root has one cell, and the project in it has that root. -/
structure Keyed (r : Registry) : Prop where
  distinct : r.Distinct
  home : ∀ {root p}, r.get? root = some p → p.places.root.same root = true

theorem keyed_empty : empty.Keyed := ⟨List.Pairwise.nil, fun h => by cases h⟩

/-- Lookups put every project into the cell of its root. -/
theorem Keyed.loads (h : r.Keyed) (hloads : r.Loads files r') : r'.Keyed where
  distinct := hloads.distinct h.distinct
  home {root p} hp := by
    obtain heq | ⟨-, _, places, s, -, hsame, -, hget⟩ := hloads.get? root
    · exact h.home (heq ▸ hp)
    · obtain rfl := Option.some_inj.mp (hget.symm.trans hp)
      exact hsame

/-- `storeSchema` changes the schema of a project, and neither its root nor its cell. -/
theorem Keyed.storeSchema (h : r.Keyed) (root : Path) (s : ProjectSchema) :
    (r.storeSchema root s).Keyed where
  distinct := distinct_modify h.distinct _ _
  home {root' p} hp := by
    rw [get?_storeSchema] at hp
    split at hp
    · obtain ⟨p', hp', rfl⟩ := Option.map_eq_some_iff.mp hp
      have hhome := h.home hp'
      exact hhome
    · exact h.home hp

/-- A project is in the cell of its own root. -/
theorem Keyed.get?_of_mem_projects (h : r.Keyed) (hp : p ∈ r.projects) :
    r.get? p.places.root = some p := by
  obtain ⟨root, hroot⟩ := (mem_projects_iff h.distinct).mp hp
  rw [get?_congr (h.home hroot), hroot]

/-- No two projects have the same root. -/
theorem Keyed.pairwise_projects (h : r.Keyed) :
    r.projects.Pairwise fun p q => p.places.root.same q.places.root = false := by
  -- the projects stand in the order of their cells, whose roots differ
  refine List.pairwise_filterMap.mpr (h.distinct.imp_of_mem ?_)
  intro c d hc hd hcd p hp q hq
  have hhome {c : Path × Option Project} {p : Project} (hc : c ∈ r.cells) (hp : c.2 = some p) :
      p.places.root.same c.1 = true :=
    h.home (get?_eq_some_iff.mpr (by rw [h.distinct.cell?_of_mem hc, hp]))
  rw [Path.same_congr (hhome hd hq), Path.same_comm, Path.same_congr (hhome hc hp), Path.same_comm]
  exact hcd

end Registry

end PrimitiveDesk
