import PrimitiveDesk.Proofs.Project.Cells
import PrimitiveDesk.Proofs.Run
import PrimitiveDesk.Proofs.Schema.ReadableSources

/-!
# Calls that share the registry

Any number of callers may use the registry at once, while the schema files are rewritten or deleted.
A call that looks a root up, or makes a cell for it, needs the map of the roots for that moment; a
call that lists the projects keeps the map until it is done, and looks into one cell after another.
Only one call at a time loads the project of a root, the others wait for its cell. Files are read
between these steps.

In every run the project of a root is loaded at most once, and everybody who gets a project of that
root gets this one (`SharedRegistry.run?_loads_once`).
-/

namespace PrimitiveDesk

/-- What a caller asks the registry for. -/
inductive Query where
  | getOrLoad (places : ProjectPlaces)
  | get (root : Path)
  | projects
  | reload (root : Path)

/-- What the registry answers. -/
inductive Answer where
  | loaded (result : Except ProjectError Project)
  | found (project? : Option Project)
  | listed (projects : List Project)
  | reloaded (result : Except ProjectError Unit)

/-- The project that an answer hands out, with the root that was asked for. -/
def Query.handsOut? : Query → Answer → Option (Path × Project)
  | .getOrLoad places, .loaded (.ok p) => some (places.root, p)
  | .get root, .found (some p) => some (root, p)
  | _, _ => none

/-- Whether a call has failed. -/
def Answer.isFailure : Answer → Bool
  | loaded (.error _) | reloaded (.error _) => true
  | _ => false

/-- How far a call has got. -/
inductive QueryStage where
  | asked
  /-- It waits for the cell of its root to be filled or free. -/
  | waiting
  | reading (places : ProjectPlaces)
  | read (places : ProjectPlaces) (result : Except ProjectError ProjectSchema)
  /-- It holds the map of the roots, and looks into this cell next. -/
  | listing (position : Nat) (found : List Project)
  | answered (answer : Answer)

/-- Whether a call is loading the project of a root. -/
def QueryStage.loadsRoot (root : Path) : Query → QueryStage → Bool
  | .getOrLoad places, .reading _ | .getOrLoad places, .read .. => places.root.same root
  | _, _ => false

/-- Whether a call holds the map of the roots. -/
def QueryStage.holdsMap : QueryStage → Bool
  | listing .. => true
  | _ => false

/-- The registry with the calls that use it, and the files. -/
structure SharedRegistry where
  files : Path → Except SystemError String
  registry : Registry
  /-- The calls that were made, in order. -/
  queries : List (Query × QueryStage)
  /-- The places of the projects that were loaded, in order. -/
  loads : List ProjectPlaces

/-- A piece of work: the files are changed, a call is made, or a call goes on. -/
inductive SharedMove where
  | edit (files : Path → Except SystemError String)
  | ask (q : Query)
  /-- The call with this number goes on. -/
  | advance (i : Nat)

namespace SharedRegistry

open Schemata (plainSource ofSource_plainSource)

/-- No call was made yet. -/
def start (files : Path → Except SystemError String) : SharedRegistry := ⟨files, .empty, [], []⟩

/-- Whether no call holds the map of the roots. -/
def mapFree (x : SharedRegistry) : Bool := x.queries.all fun c => !c.2.holdsMap

/-- Whether some call is loading the project of a root. -/
def isLoading (x : SharedRegistry) (root : Path) : Bool :=
  x.queries.any fun c => c.2.loadsRoot root c.1

/-- What a call does next, if it can go on. -/
def next? (x : SharedRegistry) : Query → QueryStage → Option (SharedRegistry × QueryStage)
  | .getOrLoad places, .asked =>
    if x.mapFree then some ({ x with registry := x.registry.reserve places.root }, .waiting)
    else none
  | .getOrLoad places, .waiting =>
    match x.registry.get? places.root with
    | some p => some (x, .answered (.loaded (.ok p)))
    | none => if x.isLoading places.root then none else some (x, .reading places)
  | .getOrLoad places, .read _ (.ok s) =>
    some ({ x with
      registry := x.registry.settle places.root ⟨places, s⟩
      loads := x.loads ++ [places] }, .answered (.loaded (.ok ⟨places, s⟩)))
  | .getOrLoad _, .read _ (.error e) => some (x, .answered (.loaded (.error e)))
  | .get root, .asked =>
    if x.mapFree then some (x, .answered (.found (x.registry.get? root))) else none
  | .projects, .asked => if x.mapFree then some (x, .listing 0 []) else none
  | .projects, .listing position found =>
    match x.registry.cells[position]? with
    | some (_, project?) => some (x, .listing (position + 1) (found ++ project?.toList))
    | none => some (x, .answered (.listed found))
  | .reload root, .asked =>
    if x.mapFree then
      match x.registry.get? root with
      | some p => some (x, .reading p.places)
      | none => some (x, .answered (.reloaded (.error (.notLoaded root))))
    else none
  | .reload root, .read _ (.ok s) =>
    some ({ x with registry := x.registry.storeSchema root s }, .answered (.reloaded (.ok ())))
  | .reload _, .read _ (.error e) => some (x, .answered (.reloaded (.error e)))
  | _, .reading places => some (x, .read places (places.readSchema x.files))
  | _, _ => none

/-- The state after a move. -/
def step? (x : SharedRegistry) : SharedMove → Option SharedRegistry
  | .edit files => some { x with files }
  | .ask q => some { x with queries := x.queries ++ [(q, .asked)] }
  | .advance i =>
    match x.queries[i]? with
    | none => none
    | some (q, stage) =>
      (x.next? q stage).map fun (x, stage) => { x with queries := x.queries.set i (q, stage) }

/-! ## What a call does in one step -/

/-- The steps of a call, each with what makes it possible. -/
inductive QueryStep (x : SharedRegistry) :
    Query → QueryStage → SharedRegistry → QueryStage → Prop
  | reserve (places : ProjectPlaces) (hfree : x.mapFree = true) :
    QueryStep x (.getOrLoad places) .asked
      { x with registry := x.registry.reserve places.root } .waiting
  | serve {places : ProjectPlaces} {p : Project} (hp : x.registry.get? places.root = some p) :
    QueryStep x (.getOrLoad places) .waiting x (.answered (.loaded (.ok p)))
  | load {places : ProjectPlaces} (hnone : x.registry.get? places.root = none)
      (hfree : x.isLoading places.root = false) :
    QueryStep x (.getOrLoad places) .waiting x (.reading places)
  | settle (places places' : ProjectPlaces) (s : ProjectSchema) :
    QueryStep x (.getOrLoad places) (.read places' (.ok s))
      { x with
        registry := x.registry.settle places.root ⟨places, s⟩
        loads := x.loads ++ [places] } (.answered (.loaded (.ok ⟨places, s⟩)))
  | failLoad (places places' : ProjectPlaces) (e : ProjectError) :
    QueryStep x (.getOrLoad places) (.read places' (.error e)) x (.answered (.loaded (.error e)))
  | get (root : Path) (hfree : x.mapFree = true) :
    QueryStep x (.get root) .asked x (.answered (.found (x.registry.get? root)))
  | list (hfree : x.mapFree = true) : QueryStep x .projects .asked x (.listing 0 [])
  | listCell {position : Nat} {root : Path} {project? : Option Project}
      (hcell : x.registry.cells[position]? = some (root, project?)) (found : List Project) :
    QueryStep x .projects (.listing position found) x
      (.listing (position + 1) (found ++ project?.toList))
  | listEnd (position : Nat) (found : List Project) :
    QueryStep x .projects (.listing position found) x (.answered (.listed found))
  | lookUp {root : Path} {p : Project} (hfree : x.mapFree = true)
      (hp : x.registry.get? root = some p) :
    QueryStep x (.reload root) .asked x (.reading p.places)
  | notLoaded (root : Path) (hfree : x.mapFree = true) :
    QueryStep x (.reload root) .asked x (.answered (.reloaded (.error (.notLoaded root))))
  | store (root : Path) (places : ProjectPlaces) (s : ProjectSchema) :
    QueryStep x (.reload root) (.read places (.ok s))
      { x with registry := x.registry.storeSchema root s } (.answered (.reloaded (.ok ())))
  | failReload (root : Path) (places : ProjectPlaces) (e : ProjectError) :
    QueryStep x (.reload root) (.read places (.error e)) x (.answered (.reloaded (.error e)))
  | read (q : Query) (places : ProjectPlaces) :
    QueryStep x q (.reading places) x (.read places (places.readSchema x.files))

variable {x x' : SharedRegistry} {q : Query} {stage stage' : QueryStage} {i j : Nat}
  {m : SharedMove} {moves : List SharedMove} {files : Path → Except SystemError String}

/-- `next?` makes these steps only. -/
private theorem queryStep_of_next? (h : x.next? q stage = some (x', stage')) :
    QueryStep x q stage x' stage' := by
  unfold next? at h
  -- one case for each line of `next?`
  split at h
  · split at h <;> cases h
    exact .reserve _ ‹_›
  · split at h
    · cases h
      exact .serve ‹_›
    · split at h
      · cases h
      · next hbusy =>
        cases h
        exact .load ‹_› (by simpa using hbusy)
  · cases h
    exact .settle ..
  · cases h
    exact .failLoad ..
  · split at h <;> cases h
    exact .get _ ‹_›
  · split at h <;> cases h
    exact .list ‹_›
  · split at h <;> cases h
    · exact .listCell ‹_› _
    · exact .listEnd ..
  · split at h
    · split at h <;> cases h
      · exact .lookUp ‹_› ‹_›
      · exact .notLoaded _ ‹_›
    · cases h
  · cases h
    exact .store ..
  · cases h
    exact .failReload ..
  · cases h
    exact .read ..
  · cases h

private theorem QueryStep.queries_eq (h : QueryStep x q stage x' stage') :
    x'.queries = x.queries := by
  cases h <;> rfl

/-- A call that goes on changes the state and its own stage. -/
theorem step?_advance (h : x.step? (.advance i) = some x') :
    ∃ q stage y stage', x.queries[i]? = some (q, stage) ∧ QueryStep x q stage y stage' ∧
      x' = { y with queries := x.queries.set i (q, stage') } := by
  simp only [step?] at h
  split at h
  · cases h
  · next q stage hquery =>
    obtain ⟨⟨y, stage'⟩, hnext, rfl⟩ := Option.map_eq_some_iff.mp h
    have hstep := queryStep_of_next? hnext
    exact ⟨q, stage, y, stage', hquery, hstep, by rw [hstep.queries_eq]⟩

/-! ## Moments of a run -/

/-- At some moment of the run this was so. -/
def Once (files : Path → Except SystemError String) (moves : List SharedMove)
    (P : SharedRegistry → Prop) : Prop :=
  ∃ front back y, moves = front ++ back ∧ run? step? (start files) front = some y ∧ P y

/-- What was so at some moment of a run was so at some moment of a longer one. -/
private theorem Once.append {P : SharedRegistry → Prop} (h : Once files moves P)
    (more : List SharedMove) : Once files (moves ++ more) P := by
  obtain ⟨front, back, y, rfl, hfront, hy⟩ := h
  exact ⟨front, back ++ more, y, by simp, hfront, hy⟩

private theorem once_of_run? {P : SharedRegistry → Prop}
    (h : run? step? (start files) moves = some x) (hx : P x) : Once files moves P :=
  ⟨moves, [], x, by simp, h, hx⟩

/-- The schema of a project, with its default entries, is made from one text that its schema file
held at some moment. -/
def Served (files : Path → Except SystemError String) (moves : List SharedMove)
    (p : Project) : Prop :=
  ∃ source schemata, Once files moves (fun y => y.files p.places.schemaFile = .ok source) ∧
    Schemata.ofSource source = .ok schemata ∧
    p.schema = .ofSchemata p.places.profile schemata

private theorem Served.append {p : Project} (h : Served files moves p) (more : List SharedMove) :
    Served files (moves ++ more) p := by
  obtain ⟨source, schemata, hheld, hsource, hschema⟩ := h
  exact ⟨source, schemata, hheld.append more, hsource, hschema⟩

/-- What `readSchema` gives now is served from now on. -/
private theorem served_of_readSchema {places : ProjectPlaces} {s : ProjectSchema}
    (h : run? step? (start files) moves = some x) (hs : places.readSchema x.files = .ok s) :
    Served files moves ⟨places, s⟩ := by
  unfold ProjectPlaces.readSchema ProjectSchema.ofSource at hs
  split at hs
  · next source hsource =>
    split at hs
    · next schemata hschemata =>
      cases hs
      exact ⟨source, schemata, once_of_run? h hsource, hschemata, rfl⟩
    · cases hs
  · cases hs

/-! ## What holds of a call at each stage -/

/-- The project was handed out for a root: at some moment it was the project of the root, and it
still is, up to its schema. -/
def Returned (files : Path → Except SystemError String) (moves : List SharedMove) (r : Registry)
    (root : Path) (p : Project) : Prop :=
  Once files moves (fun y => y.registry.get? root = some p) ∧
    ∃ p', r.get? root = some p' ∧ p'.places = p.places

/-- The call with this number could not read the schema source, or not take it. -/
def Failed (files : Path → Except SystemError String) (moves : List SharedMove) (i : Nat)
    (places : ProjectPlaces) (e : ProjectError) : Prop :=
  Once files moves fun y =>
    y.queries[i]? = some (.getOrLoad places, .reading places) ∧
      places.readSchema y.files = .error e

/-- What holds of a call at a stage. -/
def StageSound (files : Path → Except SystemError String) (moves : List SharedMove) (r : Registry)
    (i : Nat) : Query → QueryStage → Prop
  | .getOrLoad places, .waiting => (r.cell? places.root).isSome = true
  | .getOrLoad places, .reading places' => places' = places ∧ r.cell? places.root = some none
  | .getOrLoad places, .read places' (.ok s) =>
    places' = places ∧ r.cell? places.root = some none ∧ Served files moves ⟨places, s⟩
  | .getOrLoad places, .read places' (.error e) =>
    places' = places ∧ r.cell? places.root = some none ∧ Failed files moves i places e
  | .getOrLoad places, .answered (.loaded (.ok p)) => Returned files moves r places.root p
  | .getOrLoad places, .answered (.loaded (.error e)) => Failed files moves i places e
  | .get root, .answered (.found (some p)) => Returned files moves r root p
  | .projects, .listing _ found => ∀ p ∈ found, ∃ root, Returned files moves r root p
  | .projects, .answered (.listed found) => ∀ p ∈ found, ∃ root, Returned files moves r root p
  | .reload root, .reading places => ∃ p, r.get? root = some p ∧ p.places = places
  | .reload root, .read places (.ok s) =>
    (∃ p, r.get? root = some p ∧ p.places = places) ∧ Served files moves ⟨places, s⟩
  | _, _ => True

/-- What was handed out stays so while the registry grows. -/
private theorem Returned.mono {r r' : Registry} {root : Path} {p : Project}
    (h : Returned files moves r root p) (more : List SharedMove) (hgrows : r.Grows r') :
    Returned files (moves ++ more) r' root p := by
  obtain ⟨honce, p', hp', hplaces⟩ := h
  obtain ⟨p'', hp'', hplaces'⟩ := hgrows.get hp'
  exact ⟨honce.append more, p'', hp'', hplaces'.trans hplaces⟩

/-- A step of another call, after which the project that this one loads still is not there, leaves
it as it is. -/
theorem StageSound.mono {r r' : Registry} (h : StageSound files moves r i q stage)
    (more : List SharedMove) (hgrows : r.Grows r')
    (hkeep : ∀ root, stage.loadsRoot root q = true → r.cell? root = some none →
      r'.cell? root = some none) :
    StageSound files (moves ++ more) r' i q stage := by
  have hget {root places} : (∃ p, r.get? root = some p ∧ p.places = places) →
      ∃ p, r'.get? root = some p ∧ p.places = places := by
    rintro ⟨p, hp, rfl⟩
    exact hgrows.get hp
  have hlist {found : List Project} : (∀ p ∈ found, ∃ root, Returned files moves r root p) →
      ∀ p ∈ found, ∃ root, Returned files (moves ++ more) r' root p := by
    intro h p hp
    obtain ⟨root, hroot⟩ := h p hp
    exact ⟨root, hroot.mono more hgrows⟩
  revert h
  unfold StageSound
  -- one case for each line of `StageSound`
  split <;> intro h
  · exact hgrows.cell h
  · exact ⟨h.1, hkeep _ (by simp [QueryStage.loadsRoot]) h.2⟩
  · exact ⟨h.1, hkeep _ (by simp [QueryStage.loadsRoot]) h.2.1, h.2.2.append more⟩
  · exact ⟨h.1, hkeep _ (by simp [QueryStage.loadsRoot]) h.2.1, h.2.2.append more⟩
  · exact h.mono more hgrows
  · exact h.append more
  · exact h.mono more hgrows
  · exact hlist h
  · exact hlist h
  · exact hget h
  · exact ⟨hget h.1, h.2.append more⟩
  · trivial

private theorem returned_of_get? {root : Path} {p : Project}
    (h : run? step? (start files) moves = some x) (hp : x.registry.get? root = some p) :
    Returned files moves x.registry root p :=
  ⟨once_of_run? h hp, p, hp, rfl⟩

/-- A call that goes on gets from what holds at its stage to what holds at the next. -/
private theorem QueryStep.stageSound {y : SharedRegistry} (hstep : QueryStep x q stage y stage')
    (hx : StageSound files moves x.registry i q stage) (hdistinct : x.registry.Distinct)
    (hquery : x.queries[i]? = some (q, stage)) (hrun : run? step? (start files) moves = some x)
    (hrun' : run? step? (start files) (moves ++ [m]) = some x')
    (hx' : x'.registry = y.registry) :
    StageSound files (moves ++ [m]) y.registry i q stage' := by
  rw [← hx']
  cases hstep with
  | reserve places hfree =>
    rw [hx']
    exact Registry.isSome_cell?_reserve ..
  | serve hp => exact returned_of_get? hrun' (hx' ▸ hp)
  | load hnone hfree =>
    rw [hx']
    exact ⟨rfl, Registry.cell?_eq_some_none hx hnone⟩
  | settle places places' s =>
    obtain ⟨rfl, hcell, -⟩ := hx
    exact returned_of_get? hrun' (by simp [hx', Registry.get?_settle hcell])
  | failLoad places places' e => exact Once.append hx.2.2 _
  | get root hfree =>
    cases hp : x.registry.get? root with
    | none => trivial
    | some p => exact returned_of_get? hrun' (hx' ▸ hp)
  | list hfree => simp [StageSound]
  | @listCell position root project? hcell found =>
    intro p hp
    obtain hp | hp := List.mem_append.mp hp
    · obtain ⟨root, hroot⟩ := hx p hp
      exact ⟨root, hx' ▸ hroot.mono _ (.refl _)⟩
    · -- the project stands in the cell that the call looks into
      have hmem : p ∈ x.registry.projects := by
        refine List.mem_filterMap.mpr ⟨_, List.mem_of_getElem? hcell, ?_⟩
        simpa using hp
      obtain ⟨root', hget⟩ := (Registry.mem_projects_iff hdistinct).mp hmem
      exact ⟨root', returned_of_get? hrun' (hx' ▸ hget)⟩
  | listEnd position found => exact hx' ▸ hx.mono [m] (.refl _) (by simp [QueryStage.loadsRoot])
  | lookUp hfree hp => exact ⟨_, hx' ▸ hp, rfl⟩
  | notLoaded root hfree => trivial
  | store root places s => trivial
  | failReload root places e => trivial
  | read q places =>
    rw [hx']
    cases q with
    | getOrLoad places' =>
      obtain ⟨rfl, hcell⟩ := hx
      cases hs : places.readSchema x.files with
      | ok s => exact ⟨rfl, hcell, (served_of_readSchema hrun hs).append [m]⟩
      | error e => exact ⟨rfl, hcell, (once_of_run? hrun ⟨hquery, hs⟩).append [m]⟩
    | reload root =>
      cases hs : places.readSchema x.files with
      | ok s => exact ⟨hx, (served_of_readSchema hrun hs).append [m]⟩
      | error e => trivial
    | get root => trivial
    | projects => trivial

/-! ## What a call does to the registry -/

/-- A call loads the project of a root however the root is written. -/
private theorem loadsRoot_congr {root root' : Path} (h : root.same root' = true) (q : Query)
    (stage : QueryStage) : stage.loadsRoot root q = stage.loadsRoot root' q := by
  unfold QueryStage.loadsRoot
  split <;> simp [Path.same_congr h]

section Effects

variable {y : SharedRegistry} (hstep : QueryStep x q stage y stage')
  (hx : StageSound files moves x.registry i q stage)

include hstep

/-- A step keeps one cell for each root. -/
private theorem QueryStep.distinct (h : x.registry.Distinct) : y.registry.Distinct := by
  cases hstep with
  | reserve places hfree => exact Registry.distinct_reserve h _
  | settle places places' s => exact Registry.distinct_modify h _ _
  | store root places s => exact Registry.distinct_modify h _ _
  | _ => exact h

/-- A cell that is empty stays so, unless the call loads its project. -/
private theorem QueryStep.cell?_eq_some_none {root : Path} (hother : stage.loadsRoot root q = false)
    (h : x.registry.cell? root = some none) : y.registry.cell? root = some none := by
  cases hstep with
  | reserve places hfree =>
    obtain heq | ⟨hnone, -⟩ := Registry.cell?_reserve x.registry places.root root
    · exact heq.trans h
    · simp [hnone] at h
  | settle places places' s =>
    have hother : places.root.same root = false := hother
    show (x.registry.modify _ _).cell? root = _
    simp [Registry.cell?_modify, hother, h]
  | store root' places s =>
    show (x.registry.modify _ _).cell? root = _
    simp [Registry.cell?_modify, h]
  | _ => exact h

/-- A call that starts to load is alone with its root. -/
private theorem QueryStep.loadsRoot {root : Path} (h : stage'.loadsRoot root q = true) :
    stage.loadsRoot root q = true ∨ ∀ c ∈ x.queries, c.2.loadsRoot root c.1 = false := by
  cases hstep with
  | @load places hnone hfree =>
    right
    have hroot : places.root.same root = true := h
    intro c hc
    rw [← loadsRoot_congr hroot]
    simpa using List.any_eq_false.mp hfree c hc
  | read q places =>
    left
    unfold QueryStage.loadsRoot at h ⊢
    split at h <;> simp_all
  | _ => simp [QueryStage.loadsRoot] at h

include hx

/-- A step of a call loses no project. -/
private theorem QueryStep.grows : x.registry.Grows y.registry := by
  cases hstep with
  | reserve places hfree => exact Registry.grows_reserve ..
  | settle places places' s =>
    obtain ⟨-, hcell, -⟩ := hx
    exact Registry.grows_settle hcell _
  | store root places s => exact Registry.grows_storeSchema ..
  | _ => exact .refl _

/-- The projects that were loaded are those that stand in the cells. -/
private theorem QueryStep.loads_eq
    (h : ∀ root, x.loads.filter (·.root.same root) =
      ((x.registry.get? root).map (·.places)).toList) (root : Path) :
    y.loads.filter (·.root.same root) = ((y.registry.get? root).map (·.places)).toList := by
  cases hstep with
  | reserve places hfree => simpa using h root
  -- the project that is settled is loaded into an empty cell; a new schema leaves its places
  | settle places places' s =>
    obtain ⟨-, hcell, -⟩ := hx
    rw [List.filter_append, h, Registry.get?_settle hcell]
    cases hsame : places.root.same root with
    | true => simp [hsame, ← Registry.get?_congr hsame, Registry.get?_eq_none_of_cell? hcell]
    | false => simp [hsame]
  | store root' places s =>
    rw [h, Registry.get?_storeSchema]
    split
    · simp [Function.comp_def]
    · rfl
  | _ => exact h root

/-- A step of a call puts only schemata there that are served. -/
private theorem QueryStep.served
    (h : ∀ {root p}, x.registry.get? root = some p → Served files moves p)
    {root : Path} {p : Project} (hp : y.registry.get? root = some p) : Served files moves p := by
  -- only settling a cell and storing a schema change what is there
  cases hstep with
  | reserve places hfree => exact h (by simpa using hp)
  | settle places places' s =>
    obtain ⟨-, hcell, hs⟩ := hx
    rw [Registry.get?_settle hcell] at hp
    split at hp
    · cases hp
      exact hs
    · exact h hp
  | store root' places s =>
    obtain ⟨⟨old, hold, rfl⟩, hs⟩ := hx
    rw [Registry.get?_storeSchema] at hp
    split at hp
    · next hsame =>
      rw [← Registry.get?_congr hsame, hold] at hp
      cases hp
      exact hs
    · exact h hp
  | _ => exact h hp

end Effects

/-! ## What holds after every run -/

/-- The call with this number is loading the project of a root. -/
def Loads (x : SharedRegistry) (i : Nat) (root : Path) : Prop :=
  ∃ q stage, x.queries[i]? = some (q, stage) ∧ stage.loadsRoot root q = true

/-- What holds of the registry and of all its calls. -/
structure Sound (files : Path → Except SystemError String) (moves : List SharedMove)
    (x : SharedRegistry) : Prop where
  distinct : x.registry.Distinct
  loads_eq : ∀ root,
    x.loads.filter (·.root.same root) = ((x.registry.get? root).map (·.places)).toList
  served : ∀ {root p}, x.registry.get? root = some p → Served files moves p
  stage : ∀ {i q stage}, x.queries[i]? = some (q, stage) →
    StageSound files moves x.registry i q stage
  /-- No two calls load the project of one root. -/
  single : ∀ {i j root}, x.Loads i root → x.Loads j root → i = j

/-- All of this holds before the first call. -/
private theorem sound_start (files : Path → Except SystemError String) :
    Sound files [] (start files) where
  distinct := List.Pairwise.nil
  loads_eq _ := rfl
  served h := by simp [start, Registry.empty, Registry.get?, Registry.cell?] at h
  stage h := by simp [start] at h
  single h := by simp [start, Loads] at h

/-- Files that change leave what was read as it is. -/
private theorem Sound.edit (hx : Sound files moves x) (files' : Path → Except SystemError String) :
    Sound files (moves ++ [m]) { x with files := files' } :=
  { hx with
    served := fun h => (hx.served h).append _
    stage := fun h => (hx.stage h).mono _ (.refl _) fun _ _ => id }

/-- A new call has done nothing yet. -/
private theorem Sound.ask (hx : Sound files moves x) (q : Query) :
    Sound files (moves ++ [m]) { x with queries := x.queries ++ [(q, .asked)] } := by
  have hold {i : Nat} {c : Query × QueryStage} (h : (x.queries ++ [(q, .asked)])[i]? = some c) :
      x.queries[i]? = some c ∨ c = (q, .asked) := by
    by_cases hi : i < x.queries.length
    · exact .inl (by rwa [List.getElem?_append_left hi] at h)
    · have hmem := List.mem_of_getElem? ((List.getElem?_append_right (by omega)).symm.trans h)
      exact .inr (by simpa using hmem)
  -- a call that was just made does not load anything
  have hloads {i root} (h : Loads { x with queries := x.queries ++ [(q, .asked)] } i root) :
      x.Loads i root := by
    obtain ⟨q', stage, hi, hl⟩ := h
    obtain hi | heq := hold hi
    · exact ⟨q', stage, hi, hl⟩
    · cases heq
      simp [QueryStage.loadsRoot] at hl
  refine ⟨hx.distinct, hx.loads_eq, fun h => (hx.served h).append _, ?_, ?_⟩
  · intro i q' stage h
    obtain h | heq := hold h
    · exact (hx.stage h).mono _ (.refl _) fun _ _ => id
    · cases heq
      simp [StageSound]
  · exact fun hi hj => hx.single (hloads hi) (hloads hj)

/-- A call that goes on keeps all of this. -/
private theorem Sound.advance (hx : Sound files moves x)
    (hrun : run? step? (start files) moves = some x)
    (hrun' : run? step? (start files) (moves ++ [.advance i]) = some x')
    (hstep : x.step? (.advance i) = some x') : Sound files (moves ++ [.advance i]) x' := by
  obtain ⟨q, stage, y, stage', hquery, hcall, rfl⟩ := step?_advance hstep
  have hi := hx.stage hquery
  have hold {j c} (h : (x.queries.set i (q, stage'))[j]? = some c) :
      j = i ∧ c = (q, stage') ∨ j ≠ i ∧ x.queries[j]? = some c := by
    by_cases hj : j = i
    · have hmem := List.getElem?_set_self (a := (q, stage')) (List.getElem?_eq_some_iff.mp hquery).1
      exact .inl ⟨hj, Option.some.inj (by rw [← h, hj, hmem])⟩
    · exact .inr ⟨hj, by rwa [List.getElem?_set_ne (Ne.symm hj)] at h⟩
  refine ⟨hcall.distinct hx.distinct, hcall.loads_eq hi hx.loads_eq,
    fun h => (hcall.served hi hx.served h).append _, ?_, ?_⟩
  · intro j q' stage'' h
    obtain ⟨rfl, heq⟩ | ⟨hne, h⟩ := hold h
    · cases heq
      exact hcall.stageSound hi hx.distinct hquery hrun hrun' rfl
    · refine (hx.stage h).mono _ (hcall.grows hi) fun root hloads hcell => ?_
      -- the other call loads a project of its own, if it loads one
      cases hother : stage.loadsRoot root q with
      | true => exact absurd (hx.single ⟨_, _, h, hloads⟩ ⟨_, _, hquery, hother⟩) hne
      | false => exact hcall.cell?_eq_some_none hother hcell
  · -- who loads now has loaded before, or is the one that has just found nobody else
    have hloads {j root} (h : Loads { y with queries := x.queries.set i (q, stage') } j root) :
        x.Loads j root ∨ j = i ∧ ∀ k, ¬ x.Loads k root := by
      obtain ⟨q', stage'', h, hl⟩ := h
      obtain ⟨rfl, heq⟩ | ⟨-, h⟩ := hold h
      · cases heq
        obtain hl' | hnone := hcall.loadsRoot hl
        · exact .inl ⟨_, _, hquery, hl'⟩
        · refine .inr ⟨rfl, ?_⟩
          rintro k ⟨q', stage'', hk, hlk⟩
          simpa [hlk] using hnone _ (List.mem_of_getElem? hk)
      · exact .inl ⟨_, _, h, hl⟩
    intro j k root hj hk
    obtain hj' | ⟨hji, hnone⟩ := hloads hj <;> obtain hk' | ⟨hki, hnone'⟩ := hloads hk
    · exact hx.single hj' hk'
    · exact absurd hj' (hnone' j)
    · exact absurd hk' (hnone k)
    · exact hji.trans hki.symm

/-- All of this holds after every run. -/
theorem sound_of_run? (h : run? step? (start files) moves = some x) : Sound files moves x := by
  -- by induction on the run, with one lemma for each kind of move
  refine run?_induction (P := Sound files) (sound_start files) ?_ h
  intro moves m t t' hrun ht hstep
  cases m with
  | edit files' =>
    cases hstep
    exact ht.edit files'
  | ask q =>
    cases hstep
    exact ht.ask q
  | advance i => exact ht.advance hrun (run?_concat.mpr ⟨t, hrun, hstep⟩) hstep

/-! ## A call that fails -/

/-- A step changes what can be seen only if the call succeeds with it. -/
private theorem QueryStep.unchanged {y : SharedRegistry} (h : QueryStep x q stage y stage') :
    ((∀ root, y.registry.get? root = x.registry.get? root) ∧
      y.registry.projects = x.registry.projects) ∨
    ∃ a, stage' = .answered a ∧ a.isFailure = false := by
  cases h with
  | reserve places hfree => exact .inl (by simp)
  | settle places places' s => exact .inr ⟨_, rfl, rfl⟩
  | store root places s => exact .inr ⟨_, rfl, rfl⟩
  | _ => exact .inl ⟨fun _ => rfl, rfl⟩

/-- An answer stays. -/
private theorem queries_answered_of_run? {a : Answer} (h : x.queries[i]? = some (q, .answered a))
    (hrun : run? step? x moves = some x') : x'.queries[i]? = some (q, .answered a) := by
  refine run?_induction (P := fun _ x => x.queries[i]? = some (q, .answered a)) h ?_ hrun
  intro _ m t t' _ ht hstep
  cases m with
  | edit files => cases hstep; exact ht
  | ask q =>
    cases hstep
    exact (List.getElem?_append_left (List.getElem?_eq_some_iff.mp ht).1).trans ht
  | advance j =>
    obtain ⟨q', stage, y, stage', hquery, hcall, rfl⟩ := step?_advance hstep
    -- a call that has its answer takes no further step
    by_cases hj : j = i
    · subst hj
      cases hquery.symm.trans ht
      nomatch hcall
    · exact (List.getElem?_set_ne hj).trans ht

/-- No step of a call that fails changes what can be seen in the registry. -/
theorem unchanged_of_isFailure {y : SharedRegistry} {a : Answer}
    (hstep : x.step? (.advance i) = some x') (hrun : run? step? x' moves = some y)
    (hy : y.queries[i]? = some (q, .answered a)) (ha : a.isFailure = true) :
    (∀ root, x'.registry.get? root = x.registry.get? root) ∧
      x'.registry.projects = x.registry.projects := by
  obtain ⟨q', stage, z, stage', hquery, hcall, rfl⟩ := step?_advance hstep
  obtain hsame | ⟨b, rfl, hb⟩ := hcall.unchanged
  · exact hsame
  · have hlt := (List.getElem?_eq_some_iff.mp hquery).1
    have hend := queries_answered_of_run? (List.getElem?_set_self hlt) hrun
    cases hend.symm.trans hy
    simp [hb] at ha

/-! ## A call that meets no other -/

/-- The state with one more call. -/
def withCall (x : SharedRegistry) (q : Query) (stage : QueryStage) : SharedRegistry :=
  { x with queries := x.queries ++ [(q, stage)] }

theorem mapFree_withCall (x : SharedRegistry) (q : Query) (stage : QueryStage) :
    (x.withCall q stage).mapFree = (x.mapFree && !stage.holdsMap) := by
  simp [withCall, mapFree]

private theorem isLoading_withCall (x : SharedRegistry) (q : Query) (stage : QueryStage)
    (root : Path) :
    (x.withCall q stage).isLoading root = (x.isLoading root || stage.loadsRoot root q) := by
  simp [withCall, isLoading]

/-- The call that was made last goes on. -/
theorem step?_withCall (hqueries : x'.queries = x.queries)
    (h : (x.withCall q stage).next? q stage = some (x'.withCall q stage, stage')) :
    (x.withCall q stage).step? (.advance x.queries.length) = some (x'.withCall q stage') := by
  have hquery : (x.withCall q stage).queries[x.queries.length]? = some (q, stage) := by
    simp [withCall]
  simp only [step?, hquery, h, Option.map_some]
  simp [withCall, hqueries]

/-- A call for a project that no other call is loading, while nobody lists the projects, does what
`Registry.getOrLoad` does. -/
theorem run?_getOrLoad (hmap : x.mapFree = true) {places : ProjectPlaces}
    (hfree : x.isLoading places.root = false) :
    ∃ k x', run? step? x
        (.ask (.getOrLoad places) :: List.replicate k (.advance x.queries.length)) = some x' ∧
      x'.registry = (x.registry.getOrLoad x.files places).2 ∧
      x'.queries = x.queries ++
        [(.getOrLoad places, .answered (.loaded (x.registry.getOrLoad x.files places).1))] := by
  let q := Query.getOrLoad places
  let y : SharedRegistry := { x with registry := x.registry.reserve places.root }
  have hy : y.queries = x.queries := rfl
  have hreserve : (x.withCall q .asked).step? (.advance x.queries.length) =
      some (y.withCall q .waiting) := by
    refine step?_withCall hy ?_
    simp only [next?, q, mapFree_withCall, hmap, QueryStage.holdsMap]
    rfl
  -- the project is there, or the call is the one that loads it
  cases hget : (x.registry.reserve places.root).get? places.root with
  | some p =>
    have hserve : (y.withCall q .waiting).step? (.advance x.queries.length) =
        some (y.withCall q (.answered (.loaded (.ok p)))) := by
      refine step?_withCall hy ?_
      have hget' : (y.withCall q .waiting).registry.get? places.root = some p := hget
      simp only [next?, q, hget']
    refine ⟨2, y.withCall q (.answered (.loaded (.ok p))), ?_, ?_, ?_⟩
    · exact run?_cons.mpr ⟨_, rfl, run?_cons.mpr ⟨_, hreserve, run?_cons.mpr ⟨_, hserve, rfl⟩⟩⟩
    · simp [Registry.getOrLoad, hget, y, withCall]
    · simp [Registry.getOrLoad, hget, y, withCall, q]
  | none =>
    have hload : (y.withCall q .waiting).step? (.advance x.queries.length) =
        some (y.withCall q (.reading places)) := by
      refine step?_withCall hy ?_
      have hfree' : y.isLoading places.root = false := hfree
      simp [next?, q, show (y.withCall q .waiting).registry.get? places.root = none from hget,
        isLoading_withCall, hfree', QueryStage.loadsRoot]
    have hread : (y.withCall q (.reading places)).step? (.advance x.queries.length) =
        some (y.withCall q (.read places (places.readSchema x.files))) :=
      step?_withCall hy rfl
    have hfront {z} (hend : (y.withCall q (.read places (places.readSchema x.files))).step?
        (.advance x.queries.length) = some z) :
        run? step? x (.ask q :: List.replicate 4 (.advance x.queries.length)) = some z :=
      run?_cons.mpr ⟨_, rfl, run?_cons.mpr ⟨_, hreserve, run?_cons.mpr ⟨_, hload,
        run?_cons.mpr ⟨_, hread, run?_cons.mpr ⟨_, hend, rfl⟩⟩⟩⟩⟩
    cases hs : places.readSchema x.files with
    | error e =>
      refine ⟨4, y.withCall q (.answered (.loaded (.error e))), hfront ?_, ?_, ?_⟩
      · rw [hs]
        exact step?_withCall hy rfl
      · simp [Registry.getOrLoad, hget, hs, y, withCall]
      · simp [Registry.getOrLoad, hget, hs, y, withCall, q]
    | ok s =>
      let z : SharedRegistry := { y with
        registry := y.registry.settle places.root ⟨places, s⟩
        loads := y.loads ++ [places] }
      refine ⟨4, z.withCall q (.answered (.loaded (.ok ⟨places, s⟩))), hfront ?_, ?_, ?_⟩
      · rw [hs]
        exact step?_withCall (show z.queries = y.queries from rfl) rfl
      · simp [Registry.getOrLoad, hget, hs, y, z, withCall]
      · simp [Registry.getOrLoad, hget, hs, y, z, withCall, q]

/-! ## The main statement -/

/-- In every run the project of a root is loaded at most once, and who asks for it gets that one,
then and later. A call that fails changes nothing that can be seen, a load that fails has read the
files itself, and the next one reads them again. The schema that a project serves is made from one
text that its schema file held at some moment. -/
theorem run?_loads_once (h : run? step? (start files) moves = some x) :
    (∀ root, (x.loads.filter (·.root.same root)).length ≤ 1) ∧
    (∀ i q a, x.queries[i]? = some (q, .answered a) →
      (∀ root p, q.handsOut? a = some (root, p) →
        x.loads.filter (·.root.same root) = [p.places] ∧ Returned files moves x.registry root p) ∧
      (∀ found, q = .projects → a = .listed found → ∀ p ∈ found, ∃ root,
        x.loads.filter (·.root.same root) = [p.places] ∧ Returned files moves x.registry root p) ∧
      (a.isFailure = true → ∀ front back y y', moves = front ++ .advance i :: back →
        run? step? (start files) front = some y → y.step? (.advance i) = some y' →
        (∀ root, y'.registry.get? root = y.registry.get? root) ∧
          y'.registry.projects = y.registry.projects) ∧
      (∀ places e, q = .getOrLoad places → a = .loaded (.error e) →
        Failed files moves i places e)) ∧
    (∀ places, x.registry.get? places.root = none → x.mapFree = true →
      x.isLoading places.root = false →
      ∃ k x', run? step? x
          (.ask (.getOrLoad places) :: List.replicate k (.advance x.queries.length)) = some x' ∧
        x'.registry = (x.registry.getOrLoad x.files places).2 ∧
        x'.queries = x.queries ++ [(.getOrLoad places,
          .answered (.loaded ((places.readSchema x.files).map fun s => ⟨places, s⟩)))]) ∧
    (∀ root p, x.registry.get? root = some p → Served files moves p) := by
  have hx := sound_of_run? h
  -- the project of a root that was handed out is in its cell, so it is the one that was loaded
  have hreturned {root p} (hp : Returned files moves x.registry root p) :
      x.loads.filter (·.root.same root) = [p.places] ∧ Returned files moves x.registry root p := by
    obtain ⟨-, p', hp', hplaces⟩ := id hp
    exact ⟨by simp [hx.loads_eq, hp', hplaces], hp⟩
  refine ⟨?_, ?_, ?_, fun root p hp => hx.served hp⟩
  · intro root
    rw [hx.loads_eq]
    cases x.registry.get? root <;> simp
  · intro i q a hquery
    have hstage := hx.stage hquery
    refine ⟨?_, ?_, ?_, ?_⟩
    · intro root p hp
      unfold Query.handsOut? at hp
      split at hp <;> cases hp <;> exact hreturned hstage
    · rintro found rfl rfl p hp
      obtain ⟨root, hroot⟩ := hstage p hp
      exact ⟨root, hreturned hroot⟩
    · -- the step in question is that of the run
      rintro ha front back y y' rfl hfront hstep
      have hback := run?_behind h hfront hstep
      exact unchanged_of_isFailure hstep hback hquery ha
    · rintro places e rfl rfl
      exact hstage
  · intro places hnone hmap hfree
    obtain ⟨k, x', hrun, hregistry, hqueries⟩ := run?_getOrLoad hmap hfree
    refine ⟨k, x', hrun, hregistry, hqueries.trans ?_⟩
    rw [Registry.getOrLoad_of_get?_eq_none hnone]

/-- A schema source that is there and valid is read. -/
theorem readSchema_eq_ok {places : ProjectPlaces} {read : Path → Except SystemError String}
    {source : String} {schemata : Schemata} (hread : read places.schemaFile = .ok source)
    (hsource : Schemata.ofSource source = .ok schemata) :
    places.readSchema read = .ok (.ofSchemata places.profile schemata) := by
  unfold ProjectPlaces.readSchema
  rw [hread]
  unfold ProjectSchema.ofSource
  simp only [hsource]

/-- The places of a project. -/
def libraryPlaces : ProjectPlaces := ⟨.tsl, .ofText "/library"⟩

/-- A load fails for want of the file, which then is written. -/
def failedLoad : List SharedMove :=
  [.ask (.getOrLoad libraryPlaces), .advance 0, .advance 0, .advance 0, .advance 0,
   .edit fun _ => .ok plainSource]

/-- The next load succeeds. -/
theorem failedLoad_retried :
    ∃ moves x p, run? step? (start fun _ => .error .notFound) (failedLoad ++ moves) = some x ∧
      x.queries[1]? = some (.getOrLoad libraryPlaces, .answered (.loaded (.ok p))) ∧
      x.loads.filter (·.root.same libraryPlaces.root) = [libraryPlaces] ∧
      Returned (fun _ => .error .notFound) (failedLoad ++ moves) x.registry
        libraryPlaces.root p := by
  let y : SharedRegistry := ⟨fun _ => .ok plainSource, ⟨[(libraryPlaces.root, none)]⟩,
    [(.getOrLoad libraryPlaces,
      .answered (.loaded (.error (.unreadable libraryPlaces.schemaFile .notFound))))], []⟩
  have hfailed : run? step? (start fun _ => .error .notFound) failedLoad = some y := rfl
  obtain ⟨k, x, hrun, -, hqueries⟩ := (run?_loads_once hfailed).2.2.1 libraryPlaces rfl rfl rfl
  have hread : libraryPlaces.readSchema y.files =
      .ok (.ofSchemata libraryPlaces.profile ⟨[], [], []⟩) :=
    readSchema_eq_ok rfl ofSource_plainSource
  have hanswer : x.queries[1]? = some (.getOrLoad libraryPlaces, .answered (.loaded
      (.ok ⟨libraryPlaces, .ofSchemata libraryPlaces.profile ⟨[], [], []⟩⟩))) := by
    rw [hqueries, hread]
    rfl
  have hall := run?_append.mpr ⟨y, hfailed, hrun⟩
  exact ⟨_, x, _, hall, hanswer, ((run?_loads_once hall).2.1 1 _ _ hanswer).1 _ _ rfl⟩

end SharedRegistry

end PrimitiveDesk
