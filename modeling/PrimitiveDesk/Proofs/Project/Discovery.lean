import PrimitiveDesk.Proofs.Files.Folders
import PrimitiveDesk.Proofs.Project.SchemaPlaces

/-!
# Finding the project of a data file

A data file is at any depth below the folder for its kind, in the data folder of a root
(`LivesBelow`). The search goes up to the nearest folder whose name is reserved for a kind, and
looks no further: what stands above that folder decides whether there is a project
(`rootOf?_eq_some_iff`).

So `discover?` finds a project if and only if the file is below the folder for a kind in the data
folder of its root, no folder in between has a reserved name, and the root holds a schema source
(`discover?_by_nearest`). A file of a project is not found to be one where a folder further down has
such a name, unless it is part of another project inside the first.
-/

namespace PrimitiveDesk.ProjectPlaces

open PrimitiveDesk.Path

/-- The names of the folders for the two kinds of data files. -/
def kindNames : List String := [Profile.primitivesFolderName, Profile.extensionsFolderName]

/-- The file is below the folder for a kind of data files, in the data folder of the root. The names
of the folders in between and of the file itself are `inner`. -/
structure LivesBelow (file root : Path) (kind : String) (inner : List String) : Prop where
  above : root ∈ file.folders
  kind_mem : kind ∈ kindNames
  steps_eq : file.steps = root.steps ++ Profile.dataFolderName :: kind :: inner
  inner_ne : inner ≠ []

variable {file folder root : Path} {kind : String} {inner : List String} {isFile : Path → Bool}
  {places : ProjectPlaces}

/-! ## Reserved names -/

/-- Going on by the name of a folder for a kind adds it as a step. -/
private theorem steps_joinText_of_mem (h : kind ∈ kindNames) (p : Path) :
    (p.joinText kind).rooted = p.rooted ∧ (p.joinText kind).steps = p.steps ++ [kind] := by
  simp only [kindNames, List.mem_cons, List.not_mem_nil, or_false] at h
  obtain rfl | rfl := h <;> exact steps_joinText (by decide) (by decide) p

private theorem steps_joinText_dataFolderName (p : Path) :
    (p.joinText Profile.dataFolderName).rooted = p.rooted ∧
      (p.joinText Profile.dataFolderName).steps = p.steps ++ [Profile.dataFolderName] :=
  steps_joinText (by decide) (by decide) p

/-- `isKindFolder` looks at the last step of a folder. -/
private theorem isKindFolder_iff :
    isKindFolder folder = true ↔ ∃ kind ∈ kindNames, folder.steps.getLast? = some kind := by
  have hprimitives : folder.name? = some Profile.primitivesFolderName ↔
      folder.steps.getLast? = some Profile.primitivesFolderName :=
    name?_eq_some_iff (by decide) (by decide)
  have hextensions : folder.name? = some Profile.extensionsFolderName ↔
      folder.steps.getLast? = some Profile.extensionsFolderName :=
    name?_eq_some_iff (by decide) (by decide)
  simp only [kindNames, List.mem_cons, List.not_mem_nil, or_false, exists_eq_or_imp,
    exists_eq_left, ← hprimitives, ← hextensions]
  unfold isKindFolder
  split
  · next n hn => simp [hn]
  · next hn => simp [hn]

/-! ## Below a root -/

/-- The file is below a folder that the places name. -/
private theorem livesBelow_iff (hroot : root ∈ file.folders) (hkind : kind ∈ kindNames) :
    (∃ inner, LivesBelow file root kind inner) ↔
      ∃ folder ∈ file.folders,
        folder.same ((root.joinText Profile.dataFolderName).joinText kind) = true := by
  obtain ⟨hrooted, hsteps⟩ := steps_joinText_dataFolderName root
  obtain ⟨hrooted', hsteps'⟩ :=
    steps_joinText_of_mem hkind (root.joinText Profile.dataFolderName)
  simp only [same_iff, hrooted', hsteps', hrooted, hsteps]
  constructor
  · rintro ⟨inner, h⟩
    -- the folder of the kind is one of the file's folders, since something is left below it
    have hfront : file.steps =
        root.steps ++ [Profile.dataFolderName] ++ [kind] ++ inner := by
      rw [h.steps_eq]
      simp
    obtain ⟨folder, hfolder, hfolder'⟩ := exists_mem_folders hfront h.inner_ne
    refine ⟨folder, hfolder, ?_, hfolder'⟩
    rw [(exists_steps_of_mem_folders hfolder).1, (exists_steps_of_mem_folders hroot).1]
  · rintro ⟨folder, hfolder, -, hfolder'⟩
    obtain ⟨-, inner, hne, hinner⟩ := exists_steps_of_mem_folders hfolder
    exact ⟨inner, hroot, hkind, by rw [hinner, hfolder']; simp, hne⟩

/-! ## The root -/

/-- The root that has a folder in its data folder. -/
def rootAbove? (folder : Path) : Option Path :=
  match folder.parent? with
  | none => none
  | some dataFolder =>
    if dataFolder.name? = some Profile.dataFolderName then dataFolder.parent? else none

/-- `rootOf?` is decided by the nearest folder with a reserved name. -/
private theorem rootOf?_of_parent? (h : file.parent? = some folder) :
    rootOf? file = if isKindFolder folder then rootAbove? folder else rootOf? folder := by
  unfold rootOf?
  rw [folders_of_parent? h, List.find?_cons]
  cases isKindFolder folder <;> rfl

private theorem rootOf?_of_steps_eq_nil (h : file.steps = []) : rootOf? file = none := by
  rw [rootOf?, folders_of_steps_eq_nil h]
  rfl

/-- A folder has a root above it if it is in a data folder. -/
private theorem rootAbove?_eq_some_iff :
    rootAbove? folder = some root ↔
      root ∈ folder.folders ∧
        ∃ kind, folder.steps = root.steps ++ [Profile.dataFolderName, kind] := by
  have hname (p : Path) : p.name? = some Profile.dataFolderName ↔
      p.steps.getLast? = some Profile.dataFolderName :=
    name?_eq_some_iff (by decide) (by decide)
  constructor
  · intro h
    unfold rootAbove? at h
    split at h
    · cases h
    · next dataFolder hdata =>
      split at h
      · next hlast =>
        obtain ⟨kind, hkind⟩ := exists_steps_eq_concat hdata
        obtain ⟨s, hs⟩ := exists_steps_eq_concat h
        obtain rfl : s = Profile.dataFolderName := by
          simpa [hs] using (hname dataFolder).mp hlast
        refine ⟨?_, kind, by rw [hkind, hs]; simp⟩
        rw [folders_of_parent? hdata, folders_of_parent? h]
        simp
      · cases h
  · rintro ⟨hroot, kind, hkind⟩
    have hdataSteps : folder.steps = root.steps ++ [Profile.dataFolderName] ++ [kind] := by
      rw [hkind]
      simp
    obtain ⟨dataFolder, hdata, hdataSteps⟩ := exists_parent?_of_concat hdataSteps
    obtain ⟨root', hroot', hrootSteps⟩ := exists_parent?_of_concat hdataSteps
    -- the paths have the same steps, and both are above the folder
    have hmem : root' ∈ folder.folders := by
      rw [folders_of_parent? hdata, folders_of_parent? hroot']
      simp
    obtain rfl : root' = root := eq_of_mem_folders hmem hroot hrootSteps
    have hlast : dataFolder.name? = some Profile.dataFolderName :=
      (hname dataFolder).mpr (by rw [hdataSteps]; simp)
    simp only [rootAbove?, hdata, hlast, if_true, hroot']

/-- What is below the folder for a kind is so by its parent, unless it stands right in that
folder. -/
private theorem LivesBelow.of_parent? (h : LivesBelow file root kind inner)
    (hfolder : file.parent? = some folder) :
    root ∈ folder.folders ∧
      folder.steps = root.steps ++ Profile.dataFolderName :: kind :: inner.dropLast := by
  have hsteps : folder.steps = root.steps ++ Profile.dataFolderName :: kind :: inner.dropLast := by
    rw [(steps_parent? hfolder).2, h.steps_eq, List.dropLast_append_of_ne_nil (by simp),
      List.dropLast_cons_of_ne_nil (by simp), List.dropLast_cons_of_ne_nil h.inner_ne]
  refine ⟨?_, hsteps⟩
  have habove := h.above
  rw [folders_of_parent? hfolder] at habove
  refine (List.mem_cons.mp habove).resolve_left ?_
  rintro rfl
  simp at hsteps

/-- What is in a folder below the folder for a kind is below it too. -/
private theorem LivesBelow.concat (h : LivesBelow folder root kind inner)
    (hfolder : file.parent? = some folder) : ∃ s, LivesBelow file root kind (inner ++ [s]) := by
  obtain ⟨s, hs⟩ := exists_steps_eq_concat hfolder
  refine ⟨s, ?_, h.kind_mem, by rw [hs, h.steps_eq]; simp, by simp⟩
  rw [folders_of_parent? hfolder]
  exact List.mem_cons_of_mem folder h.above

/-- `rootOf?` gives the root that the file is below, if no folder in between has a reserved name. -/
theorem rootOf?_eq_some_iff :
    rootOf? file = some root ↔
      ∃ kind inner, LivesBelow file root kind inner ∧ ∀ s ∈ inner.dropLast, s ∉ kindNames := by
  induction file using parent?_induction with
  | hroot file hfile =>
    rw [rootOf?_of_steps_eq_nil hfile]
    refine ⟨nofun, ?_⟩
    rintro ⟨kind, inner, h, -⟩
    have hsteps := h.steps_eq
    simp [hfile] at hsteps
  | hstep file folder hfolder ih =>
    rw [rootOf?_of_parent? hfolder]
    split
    · next hkind =>
      obtain ⟨kind', hkind', hlast⟩ := isKindFolder_iff.mp hkind
      -- the folder decides: the file stands right in it
      rw [rootAbove?_eq_some_iff]
      constructor
      · rintro ⟨hroot, kind, hsteps⟩
        obtain rfl : kind = kind' := by simpa [hsteps] using hlast
        obtain ⟨s, hs⟩ := exists_steps_eq_concat hfolder
        refine ⟨kind, [s], ⟨?_, hkind', by rw [hs, hsteps]; simp, by simp⟩, by simp⟩
        rw [folders_of_parent? hfolder]
        exact List.mem_cons_of_mem folder hroot
      · rintro ⟨kind, inner, h, hfree⟩
        obtain ⟨hroot, hsteps⟩ := h.of_parent? hfolder
        refine ⟨hroot, kind, ?_⟩
        -- the folder has a reserved name, so none is left between it and the one for the kind
        cases hinner : inner.dropLast.getLast? with
        | none => rw [hsteps, List.getLast?_eq_none_iff.mp hinner]
        | some s =>
          obtain rfl : s = kind' := by simpa [hsteps, List.getLast?_cons, hinner] using hlast
          exact absurd hkind' (hfree s (List.mem_of_getLast? hinner))
    · next hkind =>
      -- the folder has no reserved name, so that it decides nothing and its own root is the one
      have hkind : ∀ kind ∈ kindNames, folder.steps.getLast? ≠ some kind := by
        intro kind hmem hlast
        exact hkind (isKindFolder_iff.mpr ⟨kind, hmem, hlast⟩)
      rw [ih]
      constructor
      · rintro ⟨kind, inner, h, hfree⟩
        obtain ⟨s, hs⟩ := h.concat hfolder
        refine ⟨kind, inner ++ [s], hs, ?_⟩
        rw [List.dropLast_concat]
        intro x hx hmem
        rw [← List.dropLast_concat_getLast h.inner_ne, List.mem_append, List.mem_singleton] at hx
        obtain hx | rfl := hx
        · exact hfree x hx hmem
        · refine hkind _ hmem ?_
          rw [h.steps_eq]
          simp [List.getLast?_cons, List.getLast?_eq_some_getLast h.inner_ne]
      · rintro ⟨kind, inner, h, hfree⟩
        obtain ⟨hroot, hsteps⟩ := h.of_parent? hfolder
        have hne : inner.dropLast ≠ [] := fun hnil =>
          hkind kind h.kind_mem (by simp [hsteps, hnil])
        exact ⟨kind, inner.dropLast, ⟨hroot, h.kind_mem, hsteps, hne⟩,
          fun s hs => hfree s (List.dropLast_subset _ hs)⟩

/-! ## The project -/

/-- `discover?` takes the root from the place of the file, and the first profile with a schema
source there. -/
private theorem discover?_eq_some_iff :
    discover? isFile file = some places ↔
      rootOf? file = some places.root ∧
        Profile.all.find? (fun p => isFile (p.schemaFile places.root)) = some places.profile := by
  refine ⟨of_discover?, ?_⟩
  rintro ⟨hroot, hprofile⟩
  simp [discover?, hroot, hprofile]

/-- A root with a schema source is a project. -/
private theorem exists_discover?_of_rootOf? {p : Profile} (hroot : rootOf? file = some root)
    (hp : isFile (p.schemaFile root) = true) : ∃ q, discover? isFile file = some ⟨q, root⟩ := by
  have hmem : p ∈ Profile.all := by cases p <;> decide
  have hsome : (Profile.all.find? fun p => isFile (p.schemaFile root)).isSome = true :=
    List.find?_isSome.mpr ⟨p, hmem, hp⟩
  obtain ⟨q, hq⟩ := Option.isSome_iff_exists.mp hsome
  exact ⟨q, discover?_eq_some_iff.mpr ⟨hroot, hq⟩⟩

/-- A folder with a given name that is below one root and not below another tells the two apart: the
second is further down. -/
private theorem LivesBelow.length_lt {root' : Path} {kind' : String} {inner' : List String}
    {s : String} (h : LivesBelow file root kind inner) (hs : s ∈ inner.dropLast)
    (h' : LivesBelow file root' kind' inner') (hs' : s ∉ inner'.dropLast) :
    root.steps.length < root'.steps.length := by
  have hsuffix : inner <:+ file.steps :=
    ⟨root.steps ++ [Profile.dataFolderName, kind], by rw [h.steps_eq]; simp⟩
  have hsuffix' : inner' <:+ file.steps :=
    ⟨root'.steps ++ [Profile.dataFolderName, kind'], by rw [h'.steps_eq]; simp⟩
  -- of two ends of the steps of the file the longer one holds the name
  have hlt : inner'.length < inner.length := by
    refine Nat.lt_of_not_le fun hle => hs' ?_
    obtain ⟨front, rfl⟩ := List.suffix_of_suffix_length_le hsuffix hsuffix' hle
    rw [List.dropLast_append_of_ne_nil h.inner_ne]
    exact List.mem_append_right front hs
  have hlength := congrArg List.length (h.steps_eq.symm.trans h'.steps_eq)
  simp only [List.length_append, List.length_cons] at hlength
  omega

/-- The project of a file has the nearest root by its place, with the first profile whose schema
source is there, and the file is below one of its two folders. A file of a project finds it unless
a folder further down has a reserved name; then it finds a project further down, if any. -/
theorem discover?_by_nearest (isFile : Path → Bool) (file : Path) :
    (∀ places, discover? isFile file = some places ↔
      (∃ kind inner, LivesBelow file places.root kind inner ∧
        ∀ s ∈ inner.dropLast, s ∉ kindNames) ∧
      Profile.all.find? (fun p => isFile (p.schemaFile places.root)) = some places.profile) ∧
    (∀ places, discover? isFile file = some places →
      ∃ folder ∈ file.folders,
        folder.same places.primitivesFolder = true ∨
          folder.same places.extensionsFolder = true) ∧
    ∀ root kind inner (p : Profile), LivesBelow file root kind inner →
      isFile (p.schemaFile root) = true →
      ((∀ s ∈ inner.dropLast, s ∉ kindNames) → ∃ q, discover? isFile file = some ⟨q, root⟩) ∧
      ((∃ s ∈ inner.dropLast, s ∈ kindNames) →
        ∀ places, discover? isFile file = some places →
          root.steps.length < places.root.steps.length) := by
  refine ⟨fun places => by rw [discover?_eq_some_iff, rootOf?_eq_some_iff], ?_, ?_⟩
  · intro places h
    obtain ⟨kind, inner, hbelow, -⟩ := rootOf?_eq_some_iff.mp (of_discover? h).1
    obtain ⟨folder, hfolder, hsame⟩ :=
      (livesBelow_iff hbelow.above hbelow.kind_mem).mp ⟨inner, hbelow⟩
    have hkind := hbelow.kind_mem
    simp only [kindNames, List.mem_cons, List.not_mem_nil, or_false] at hkind
    obtain rfl | rfl := hkind
    · exact ⟨folder, hfolder, .inl hsame⟩
    · exact ⟨folder, hfolder, .inr hsame⟩
  · intro root kind inner p hbelow hp
    constructor
    · intro hfree
      exact exists_discover?_of_rootOf? (rootOf?_eq_some_iff.mpr ⟨kind, inner, hbelow, hfree⟩) hp
    · rintro ⟨s, hs, hmem⟩ places h
      -- no reserved name is below the root that is found, so it lies further down than this one
      obtain ⟨kind', inner', hbelow', hfree'⟩ := rootOf?_eq_some_iff.mp (of_discover? h).1
      exact hbelow.length_lt hs hbelow' fun hs' => hfree' s hs' hmem

/-- A file of a project inside the folder of primitives of another one finds the inner project. -/
theorem discover?_by_nearest_inner :
    let outer : Path := ⟨true, ["p"]⟩
    let innerRoot : Path := ⟨true, ["p", "primitive_data", "primitives"]⟩
    let file : Path :=
      ⟨true, ["p", "primitive_data", "primitives", "primitive_data", "extensions", "add.yaml"]⟩
    let isFile : Path → Bool := fun f =>
      f == Profile.tsl.schemaFile outer || f == Profile.tvl.schemaFile innerRoot
    LivesBelow file outer "primitives" ["primitive_data", "extensions", "add.yaml"] ∧
      LivesBelow file innerRoot "extensions" ["add.yaml"] ∧
      discover? isFile file = some ⟨.tvl, innerRoot⟩ ∧
      (∃ q, discover? isFile file = some ⟨q, innerRoot⟩) ∧
      outer.steps.length < innerRoot.steps.length := by
  intro outer innerRoot file isFile
  have houter : LivesBelow file outer "primitives" ["primitive_data", "extensions", "add.yaml"] :=
    ⟨by decide, by decide, by decide, by decide⟩
  have hinner : LivesBelow file innerRoot "extensions" ["add.yaml"] :=
    ⟨by decide, by decide, by decide, by decide⟩
  have hfound : discover? isFile file = some ⟨.tvl, innerRoot⟩ :=
    ((discover?_by_nearest isFile file).1 ⟨.tvl, innerRoot⟩).mpr
      ⟨⟨_, _, hinner, by decide⟩, by decide⟩
  obtain ⟨-, -, hlaws⟩ := discover?_by_nearest isFile file
  refine ⟨houter, hinner, hfound, ?_, ?_⟩
  · exact (hlaws innerRoot _ _ .tvl hinner (by decide)).1 (by decide)
  · exact (hlaws outer _ _ .tsl houter (by decide)).2 ⟨"extensions", by decide, by decide⟩ _ hfound

/-- A folder `extensions` among the primitives hides the project from the files in it. -/
theorem reserved_name_hides_project :
    let root : Path := ⟨true, ["p"]⟩
    let file : Path := ⟨true, ["p", "primitive_data", "primitives", "extensions", "add.yaml"]⟩
    let isFile : Path → Bool := fun f => f == Profile.tsl.schemaFile root
    LivesBelow file root "primitives" ["extensions", "add.yaml"] ∧
      isFile (Profile.tsl.schemaFile root) = true ∧ discover? isFile file = none :=
  ⟨⟨by decide, by decide, by decide, by decide⟩, by decide, by decide⟩

end PrimitiveDesk.ProjectPlaces
