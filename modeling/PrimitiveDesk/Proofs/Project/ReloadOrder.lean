import PrimitiveDesk.Proofs.Project.SharedRegistry

/-!
# The order of reloads

A call that reloads a project reads the schema source, and stores what it has read in a later step.
Nothing keeps another call from reading and storing in between.

`Reloads` says what was read and what was stored in a run. What was read was stored, or is still
held (`Reloads.perm`), and the schema of the project is the one that was stored last
(`Reloads.get?`). Whatever was read may be stored in any order (`exists_reloads`). So the schema
that was read last is sure to stay only if all that were read are equal, as where one call reloads
at a time (`last_store_stays`).
-/

namespace PrimitiveDesk.SharedRegistry

open Schemata (plainSource ofSource_plainSource nameSource nameSchemata ofSource_nameSource)

/-! ## What is read and what is stored -/

/-- The schema that a call reads in its next step to reload the project of a root. -/
def reads? (root : Path) (files : Path → Except SystemError String) :
    Query → QueryStage → Option ProjectSchema
  | .reload root', .reading places =>
    if root'.same root then (places.readSchema files).toOption else none
  | _, _ => none

/-- The schema that a call has read to reload the project of a root. It stores it in its next
step. -/
def holds? (root : Path) : Query → QueryStage → Option ProjectSchema
  | .reload root', .read _ (.ok s) => if root'.same root then some s else none
  | _, _ => none

/-- The schemata that were read and are not stored yet. -/
def held (root : Path) (queries : List (Query × QueryStage)) : List ProjectSchema :=
  queries.filterMap fun c => holds? root c.1 c.2

/-- What a move does to reload the project of a root: the schemata that it reads, and those that it
stores. -/
def effect (root : Path) (x : SharedRegistry) : SharedMove → List ProjectSchema × List ProjectSchema
  | .advance i =>
    match x.queries[i]? with
    | some (q, stage) => ((reads? root x.files q stage).toList, (holds? root q stage).toList)
    | none => ([], [])
  | _ => ([], [])

/-- A run between two states, with what it reads and what it stores, each in order. -/
inductive Reloads (root : Path) (x : SharedRegistry) :
    List ProjectSchema → List ProjectSchema → SharedRegistry → Prop
  | refl : Reloads root x [] [] x
  | step {reads stores : List ProjectSchema} {y z : SharedRegistry} (m : SharedMove)
      (h : Reloads root x reads stores y) (hm : y.step? m = some z) :
    Reloads root x (reads ++ (effect root y m).1) (stores ++ (effect root y m).2) z

/-- All calls that reload the project of a root have succeeded. -/
def Settled (root : Path) (x : SharedRegistry) : Prop :=
  ∀ root' stage, (.reload root', stage) ∈ x.queries → root'.same root = true →
    stage = .answered (.reloaded (.ok ()))

/-- All calls that reload the project of a root have succeeded, or hold what they store next. -/
def ReadyToStore (root : Path) (x : SharedRegistry) : Prop :=
  ∀ root' stage, (.reload root', stage) ∈ x.queries → root'.same root = true →
    stage = .answered (.reloaded (.ok ())) ∨ ∃ places s, stage = .read places (.ok s)

variable {x y z : SharedRegistry} {root : Path} {p : Project} {s : ProjectSchema} {q : Query}
  {stage stage' : QueryStage} {i : Nat} {m : SharedMove} {moves : List SharedMove}
  {files : Path → Except SystemError String}
  {reads stores reads' stores' order : List ProjectSchema}

/-- Runs one after the other. -/
private theorem Reloads.trans (h : Reloads root x reads stores y)
    (h' : Reloads root y reads' stores' z) :
    Reloads root x (reads ++ reads') (stores ++ stores') z := by
  induction h' with
  | refl => simpa using h
  | step m _ hm ih =>
    rw [← List.append_assoc, ← List.append_assoc]
    exact ih.step m hm

/-- Every run between two states reads and stores something, or nothing. -/
private theorem exists_run?_iff :
    (∃ moves, run? step? x moves = some y) ↔ ∃ reads stores, Reloads root x reads stores y := by
  constructor
  · rintro ⟨moves, h⟩
    refine run?_induction (P := fun _ y => ∃ reads stores, Reloads root x reads stores y)
      ⟨[], [], .refl⟩ ?_ h
    rintro _ m t t' - ⟨reads, stores, ht⟩ hm
    exact ⟨_, _, ht.step m hm⟩
  · rintro ⟨reads, stores, h⟩
    induction h with
    | refl => exact ⟨[], rfl⟩
    | step m _ hm ih =>
      obtain ⟨moves, hmoves⟩ := ih
      exact ⟨moves ++ [m], run?_concat.mpr ⟨_, hmoves, hm⟩⟩

/-! ## Every run -/

/-- `holds?` by the call and its stage. -/
private theorem holds?_eq_some_iff :
    holds? root q stage = some s ↔
      ∃ root' places, q = .reload root' ∧ stage = .read places (.ok s) ∧
        root'.same root = true := by
  unfold holds?
  split
  · next root' places s' =>
    simp only [Option.ite_none_right_eq_some, Option.some_inj]
    constructor
    · rintro ⟨hsame, rfl⟩
      exact ⟨root', places, rfl, rfl, hsame⟩
    · rintro ⟨_, _, hq, hstage, hsame⟩
      cases hq
      cases hstage
      exact ⟨hsame, rfl⟩
  · next hother =>
    refine ⟨nofun, ?_⟩
    rintro ⟨root', places, rfl, rfl, -⟩
    exact absurd rfl (hother root' places s rfl)

/-- After a step a call holds what it has read in that step. -/
private theorem QueryStep.holds?_eq (h : QueryStep x q stage y stage') (root : Path) :
    holds? root q stage' = reads? root x.files q stage := by
  cases h with
  | read q places =>
    cases q with
    | reload root' =>
      cases hs : places.readSchema x.files <;> simp [reads?, holds?, hs, Except.toOption]
    | _ => simp [reads?, holds?]
  | _ => simp [reads?, holds?]

private theorem held_append_cons (root : Path) (l r : List (Query × QueryStage)) (q : Query)
    (stage : QueryStage) :
    held root (l ++ (q, stage) :: r) =
      held root l ++ ((holds? root q stage).toList ++ held root r) := by
  cases h : holds? root q stage <;> simp [held, h]

private theorem effect_advance (h : x.queries[i]? = some (q, stage)) (root : Path) :
    effect root x (.advance i) =
      ((reads? root x.files q stage).toList, (holds? root q stage).toList) := by
  simp only [effect, h]

/-- In one step, what was held or read is stored, or is still held. -/
private theorem held_step? (h : x.step? m = some y) (root : Path) :
    (held root x.queries ++ (effect root x m).1).Perm
      ((effect root x m).2 ++ held root y.queries) := by
  cases m with
  | edit files =>
    cases h
    simp [effect]
  | ask q =>
    cases h
    simp [effect, held, holds?]
  | advance i =>
    obtain ⟨q, stage, y, stage', hquery, hstep, rfl⟩ := step?_advance h
    obtain ⟨l, r, hsplit, hset⟩ := exists_split_of_getElem? hquery
    -- what the call held goes to what is stored, what it reads goes to what it holds
    rw [effect_advance hquery, hset, hsplit, held_append_cons, held_append_cons,
      hstep.holds?_eq root, List.append_assoc, List.append_assoc]
    exact (List.perm_append_comm_assoc ..).trans
      ((List.perm_append_comm.append_left _).append_left _)

/-- What was held or read was stored, or is still held. -/
theorem Reloads.perm (h : Reloads root x reads stores y) :
    (held root x.queries ++ reads).Perm (stores ++ held root y.queries) := by
  induction h with
  | refl => simp
  | @step reads stores y z m _ hm ih =>
    rw [← List.append_assoc, List.append_assoc stores]
    refine (ih.append_right _).trans ?_
    rw [List.append_assoc]
    exact (held_step? hm root).append_left stores

/-- What a call does to the project of a root that is loaded. -/
private theorem QueryStep.get? (h : QueryStep x q stage y stage')
    (hx : StageSound files moves x.registry i q stage) (hp : x.registry.get? root = some p) :
    y.registry.get? root = some ⟨p.places, (holds? root q stage).getD p.schema⟩ := by
  -- only the store of a reload touches a project that is loaded
  cases h with
  | reserve places hfree => simpa [holds?] using hp
  | settle places places' s =>
    obtain ⟨-, hcell, -⟩ := hx
    -- the project of another root is loaded
    have hother : places.root.same root = false := by
      refine Bool.eq_false_iff.mpr fun hsame => ?_
      rw [← Registry.get?_congr hsame, Registry.get?_eq_none_of_cell? hcell] at hp
      cases hp
    simp [Registry.get?_settle hcell, hother, holds?, hp]
  | store root' places s =>
    rw [Registry.get?_storeSchema, hp]
    cases hsame : root'.same root <;> simp [holds?, hsame]
  | _ => simpa [holds?] using hp

/-- In one step, the schema of a project that is loaded is replaced by what is stored. -/
private theorem get?_of_step? (hx : Sound files moves x) (hp : x.registry.get? root = some p)
    (h : x.step? m = some y) :
    y.registry.get? root =
      some ⟨p.places, (effect root x m).2.getLast?.getD p.schema⟩ := by
  cases m with
  | edit files =>
    cases h
    exact hp
  | ask q =>
    cases h
    exact hp
  | advance i =>
    obtain ⟨q, stage, y, stage', hquery, hstep, rfl⟩ := step?_advance h
    rw [effect_advance hquery]
    refine (hstep.get? (hx.stage hquery) hp).trans ?_
    cases holds? root q stage <;> rfl

/-- In every run the schema of a project that is loaded is the one that was stored last, or that
from before. -/
theorem Reloads.get? (hrun : run? step? (start files) moves = some x)
    (hp : x.registry.get? root = some p) (h : Reloads root x reads stores y) :
    y.registry.get? root = some ⟨p.places, stores.getLast?.getD p.schema⟩ := by
  induction h with
  | refl => simpa using hp
  | @step reads stores y z m h hm ih =>
    obtain ⟨moves', hmoves'⟩ := exists_run?_iff.mpr ⟨_, _, h⟩
    have hy := sound_of_run? (run?_append.mpr ⟨x, hrun, hmoves'⟩)
    rw [get?_of_step? hy ih hm, List.getLast?_append]
    cases (effect root y m).2.getLast? <;> rfl

/-- Where all calls have succeeded, nothing is held. -/
private theorem Settled.held_eq_nil (h : Settled root x) : held root x.queries = [] := by
  refine List.filterMap_eq_nil_iff.mpr ?_
  rintro ⟨q, stage⟩ hmem
  refine Option.eq_none_iff_forall_ne_some.mpr fun s hs => ?_
  obtain ⟨root', places, rfl, rfl, hsame⟩ := holds?_eq_some_iff.mp hs
  cases h root' _ hmem hsame

/-! ## Every order -/

private theorem effect_withCall (root : Path) (x : SharedRegistry) (q : Query)
    (stage : QueryStage) :
    effect root (x.withCall q stage) (.advance x.queries.length) =
      ((reads? root x.files q stage).toList, (holds? root q stage).toList) :=
  effect_advance (by simp [withCall]) root

/-- A call reads a schema, and is held up in front of the store. -/
private theorem reloads_read (hmap : x.mapFree = true) (hp : x.registry.get? root = some p)
    (hs : p.places.readSchema files = .ok s) :
    Reloads root x [s] []
      (withCall { x with files } (.reload root) (.read p.places (.ok s))) := by
  let y : SharedRegistry := { x with files }
  have hask : y.step? (.ask (.reload root)) = some (y.withCall (.reload root) .asked) := rfl
  have hlookUp : (y.withCall (.reload root) .asked).step? (.advance x.queries.length) =
      some (y.withCall (.reload root) (.reading p.places)) := by
    refine step?_withCall (x := y) rfl ?_
    have hmap' : y.mapFree = true := hmap
    have hp' : (y.withCall (.reload root) .asked).registry.get? root = some p := hp
    simp [next?, mapFree_withCall, hmap', QueryStage.holdsMap, hp']
  have hread : (y.withCall (.reload root) (.reading p.places)).step? (.advance x.queries.length) =
      some (y.withCall (.reload root) (.read p.places (.ok s))) := by
    refine step?_withCall (x := y) rfl ?_
    simp only [next?, withCall, y, hs]
  -- of the moves only the last one is a read, and none is a store
  have hfirst : Reloads root x [] [] (y.withCall (.reload root) .asked) :=
    (Reloads.refl.step (.edit files) rfl).step _ hask
  have hsecond := hfirst.step _ hlookUp
  rw [effect_withCall root y] at hsecond
  have hthird := hsecond.step _ hread
  rw [effect_withCall root y] at hthird
  simpa [reads?, holds?, y, hs, Except.toOption] using hthird

/-- Any number of calls read, and all are held up. -/
private theorem exists_reloads_reads (hmap : x.mapFree = true) (hp : x.registry.get? root = some p)
    (hreads : ∀ s ∈ reads, ∃ files, p.places.readSchema files = .ok s) :
    ∃ y, Reloads root x reads [] y ∧
      y.queries = x.queries ++ reads.map fun s => (.reload root, .read p.places (.ok s)) := by
  induction reads generalizing x with
  | nil => exact ⟨x, .refl, by simp⟩
  | cons s reads ih =>
    obtain ⟨files, hs⟩ := hreads s List.mem_cons_self
    have hfirst := reloads_read hmap hp hs
    have hmap' : (withCall { x with files } (.reload root) (.read p.places (.ok s))).mapFree =
        true := by
      rw [mapFree_withCall]
      exact Bool.and_eq_true_iff.mpr ⟨hmap, rfl⟩
    obtain ⟨y, hy, hqueries⟩ :=
      ih hmap' hp fun s' hs' => hreads s' (List.mem_cons_of_mem s hs')
    refine ⟨y, hfirst.trans hy, hqueries.trans ?_⟩
    simp [withCall]

/-- What calls that are held up hold. -/
private theorem held_map_read (root : Path) (places : ProjectPlaces) (reads : List ProjectSchema) :
    held root (reads.map fun s => (.reload root, .read places (.ok s))) = reads := by
  induction reads with
  | nil => rfl
  | cons s reads ih =>
    have hs : holds? root (.reload root) (.read places (.ok s)) = some s := by simp [holds?]
    exact (held_append_cons root [] _ _ _).trans (by rw [hs, ih]; rfl)

/-- Calls that are held up may store in any order. -/
private theorem exists_reloads_stores (hready : ReadyToStore root x)
    (horder : order.Perm (held root x.queries)) :
    ∃ y, Reloads root x [] order y ∧ Settled root y := by
  induction order generalizing x with
  | nil =>
    refine ⟨x, .refl, fun root' stage hmem hsame => ?_⟩
    refine (hready root' stage hmem hsame).resolve_right ?_
    rintro ⟨places, s, rfl⟩
    have hheld : s ∈ held root x.queries :=
      List.mem_filterMap.mpr ⟨_, hmem, holds?_eq_some_iff.mpr ⟨root', places, rfl, rfl, hsame⟩⟩
    cases horder.symm.subset hheld
  | cons s order ih =>
    -- the call that is to store first is one of those that are held up
    have hheld : s ∈ held root x.queries := horder.subset List.mem_cons_self
    obtain ⟨⟨q, stage⟩, hmem, hs⟩ := List.mem_filterMap.mp hheld
    obtain ⟨i, hquery⟩ := List.mem_iff_getElem?.mp hmem
    obtain ⟨l, r, hsplit, hset⟩ := exists_split_of_getElem? hquery
    obtain ⟨root', places, rfl, rfl, hsame⟩ := holds?_eq_some_iff.mp hs
    let y : SharedRegistry := { x with
      registry := x.registry.storeSchema root' s
      queries := x.queries.set i (.reload root', .answered (.reloaded (.ok ()))) }
    have hstep : x.step? (.advance i) = some y := by
      simp only [step?, hquery, next?]
      rfl
    have hstore : Reloads root x [] [s] y := by
      have h : Reloads root x _ _ y := Reloads.refl.step _ hstep
      rw [effect_advance hquery] at h
      simpa [reads?, holds?, hsame] using h
    have hqueries : y.queries = l ++ (.reload root', .answered (.reloaded (.ok ()))) :: r := hset _
    have hrest : order.Perm (held root y.queries) := by
      rw [hsplit, held_append_cons, hs] at horder
      rw [hqueries, held_append_cons]
      exact (horder.trans List.perm_middle).cons_inv
    have hready' : ReadyToStore root y := by
      intro root'' stage hmem' hsame'
      rw [ReadyToStore, hsplit] at hready
      rw [hqueries, List.mem_append, List.mem_cons] at hmem'
      obtain hmem' | heq | hmem' := hmem'
      · exact hready root'' stage (List.mem_append_left _ hmem') hsame'
      · cases heq
        exact .inl rfl
      · exact hready root'' stage (List.mem_append_right _ (List.mem_cons_of_mem _ hmem')) hsame'
    obtain ⟨z, hz, hsettled⟩ := ih hready' hrest
    exact ⟨z, hstore.trans hz, hsettled⟩

/-- Whatever calls read, they may store it in any order. -/
theorem exists_reloads (hmap : x.mapFree = true) (hp : x.registry.get? root = some p)
    (hx : Settled root x) (hreads : ∀ s ∈ reads, ∃ files, p.places.readSchema files = .ok s)
    (horder : order.Perm reads) : ∃ y, Reloads root x reads order y ∧ Settled root y := by
  obtain ⟨y, hy, hqueries⟩ := exists_reloads_reads hmap hp hreads
  have hheld : held root y.queries = reads := by
    rw [hqueries, held, List.filterMap_append, ← held, ← held, hx.held_eq_nil, held_map_read,
      List.nil_append]
  have hready : ReadyToStore root y := by
    intro root' stage hmem hsame
    rw [hqueries, List.mem_append] at hmem
    obtain hmem | hmem := hmem
    · exact .inl (hx root' stage hmem hsame)
    · obtain ⟨s, -, heq⟩ := List.mem_map.mp hmem
      cases heq
      exact .inr ⟨_, _, rfl⟩
  -- all read first, and then they store in the given order
  obtain ⟨z, hz, hsettled⟩ := exists_reloads_stores hready (hheld.symm ▸ horder)
  refine ⟨z, ?_, hsettled⟩
  simpa using hy.trans hz

/-! ## The schema in the end -/

/-- Once all calls that reload a project have succeeded, its schema is the one that was stored last;
and the calls may store what they have read in any order. So the schema that was read last is sure
to stay if and only if all that were read are equal to it, as where only one call reads. -/
theorem last_store_stays (hrun : run? step? (start files) moves = some x)
    (hp : x.registry.get? root = some p) (hx : Settled root x) (reads : List ProjectSchema) :
    (∀ stores y, Reloads root x reads stores y → Settled root y → stores.Perm reads ∧
      y.registry.get? root = some ⟨p.places, stores.getLast?.getD p.schema⟩) ∧
    (x.mapFree = true → (∀ s ∈ reads, ∃ files, p.places.readSchema files = .ok s) →
      (∀ order, order.Perm reads → ∃ y, Reloads root x reads order y ∧ Settled root y) ∧
      ((∀ stores y, Reloads root x reads stores y → Settled root y →
          y.registry.get? root = some ⟨p.places, reads.getLast?.getD p.schema⟩) ↔
        ∀ s ∈ reads, reads.getLast? = some s)) := by
  have hperm : ∀ stores y, Reloads root x reads stores y → Settled root y → stores.Perm reads := by
    intro stores y h hy
    have hall := h.perm
    rw [hx.held_eq_nil, hy.held_eq_nil, List.nil_append, List.append_nil] at hall
    exact hall.symm
  refine ⟨fun stores y h hy => ⟨hperm stores y h hy, h.get? hrun hp⟩, fun hmap hreads => ?_⟩
  have horders : ∀ order, order.Perm reads → ∃ y, Reloads root x reads order y ∧ Settled root y :=
    fun order => exists_reloads hmap hp hx hreads
  refine ⟨horders, ?_, ?_⟩
  · intro hlast s hs
    obtain ⟨l, r, rfl⟩ := List.append_of_mem hs
    -- the call that has read this schema stores behind all others
    have horder : (l ++ r ++ [s]).Perm (l ++ s :: r) :=
      (List.perm_append_singleton s (l ++ r)).trans List.perm_middle.symm
    obtain ⟨y, h, hy⟩ := horders _ horder
    have hend := (h.get? hrun hp).symm.trans (hlast _ y h hy)
    cases ht : (l ++ s :: r).getLast? with
    | none => simp at ht
    | some t => simpa [ht] using hend.symm
  · intro hequal stores y h hy
    rw [h.get? hrun hp]
    have hstores := hperm stores y h hy
    cases ht : stores.getLast? with
    | none =>
      obtain rfl := List.getLast?_eq_none_iff.mp ht
      rw [hstores.nil_eq.symm]
      rfl
    | some t => rw [hequal t (hstores.subset (List.mem_of_getLast? ht))]

/-! ## Two calls -/

/-- The schema of the library from a source without entries. -/
def plainSchema : ProjectSchema := .ofSchemata .tsl ⟨[], [], []⟩

/-- The schema of the library from a source that asks for a name. -/
def nameSchema : ProjectSchema := .ofSchemata .tsl nameSchemata

private theorem readSchema_plainSource :
    libraryPlaces.readSchema (fun _ => .ok plainSource) = .ok plainSchema :=
  readSchema_eq_ok rfl ofSource_plainSource

private theorem readSchema_nameSource :
    libraryPlaces.readSchema (fun _ => .ok nameSource) = .ok nameSchema :=
  readSchema_eq_ok rfl ofSource_nameSource

/-- The two schemata differ in what a primitive must have. -/
private theorem plainSchema_ne_nameSchema : plainSchema ≠ nameSchema := by
  intro h
  have hlength := congrArg (·.schemata.primitiveClass.length) h
  cases hlength

/-- The project of the library is loaded. -/
def loadedLibrary : SharedRegistry :=
  ⟨fun _ => .ok plainSource, ⟨[(libraryPlaces.root, some ⟨libraryPlaces, plainSchema⟩)]⟩,
    [(.getOrLoad libraryPlaces, .answered (.loaded (.ok ⟨libraryPlaces, plainSchema⟩)))],
    [libraryPlaces]⟩

/-- A call loads the project of the library. -/
def loadLibrary : List SharedMove :=
  [.ask (.getOrLoad libraryPlaces), .advance 0, .advance 0, .advance 0, .advance 0]

/-- A call that reads a valid source. -/
private theorem step?_read {places : ProjectPlaces} (h : x.queries[i]? = some (q, .reading places))
    (hs : places.readSchema x.files = .ok s) :
    x.step? (.advance i) =
      some { x with queries := x.queries.set i (q, .read places (.ok s)) } := by
  cases q <;> simp only [step?, h, next?, hs, Option.map_some]

/-- The project of the library is loaded by that call. -/
private theorem run?_loadLibrary :
    run? step? (start fun _ => .ok plainSource) loadLibrary = some loadedLibrary := by
  let loading : SharedRegistry :=
    ⟨fun _ => .ok plainSource, ⟨[(libraryPlaces.root, none)]⟩,
      [(.getOrLoad libraryPlaces, .reading libraryPlaces)], []⟩
  have hread := step?_read (x := loading) (i := 0) rfl readSchema_plainSource
  exact run?_cons.mpr ⟨_, rfl, run?_cons.mpr ⟨_, rfl, run?_cons.mpr ⟨loading, rfl,
    run?_cons.mpr ⟨_, hread, rfl⟩⟩⟩⟩

/-- The project of the library is found. -/
private theorem get?_loadedLibrary :
    loadedLibrary.registry.get? libraryPlaces.root = some ⟨libraryPlaces, plainSchema⟩ := by
  simp [loadedLibrary, Registry.get?, Registry.cell?]

/-- Two calls that read one schema each may store in either order. -/
theorem last_store_stays_library :
    ∃ x y, Reloads libraryPlaces.root loadedLibrary [plainSchema, nameSchema]
        [nameSchema, plainSchema] x ∧ Settled libraryPlaces.root x ∧
      x.registry.get? libraryPlaces.root = some ⟨libraryPlaces, plainSchema⟩ ∧
      Reloads libraryPlaces.root loadedLibrary [plainSchema, nameSchema]
        [plainSchema, nameSchema] y ∧ Settled libraryPlaces.root y ∧
      y.registry.get? libraryPlaces.root = some ⟨libraryPlaces, nameSchema⟩ := by
  have hsettled : Settled libraryPlaces.root loadedLibrary := by simp [Settled, loadedLibrary]
  have hreads : ∀ s ∈ [plainSchema, nameSchema],
      ∃ files, libraryPlaces.readSchema files = .ok s := by
    simp only [List.forall_mem_cons, List.not_mem_nil, false_implies, implies_true, and_true]
    exact ⟨⟨_, readSchema_plainSource⟩, ⟨_, readSchema_nameSource⟩⟩
  obtain ⟨hlast, hmore⟩ := last_store_stays run?_loadLibrary get?_loadedLibrary hsettled
    [plainSchema, nameSchema]
  obtain ⟨horders, -⟩ := hmore rfl hreads
  obtain ⟨x, hx, hsettledX⟩ := horders [nameSchema, plainSchema] (List.Perm.swap ..)
  obtain ⟨y, hy, hsettledY⟩ := horders _ (.refl _)
  exact ⟨x, y, hx, hsettledX, (hlast _ x hx hsettledX).2, hy, hsettledY, (hlast _ y hy hsettledY).2⟩

/-- Two calls read the schema source, each after it was written, and store the other way round. -/
def overtaken : List SharedMove :=
  [.edit fun _ => .ok plainSource, .ask (.reload libraryPlaces.root), .advance 1, .advance 1,
   .edit fun _ => .ok nameSource, .ask (.reload libraryPlaces.root), .advance 2, .advance 2,
   .advance 2, .advance 1]

/-- The schema that was read first replaces the one that was read last. -/
theorem earlier_read_stays :
    plainSchema ≠ nameSchema ∧
    ∃ x, run? step? (start fun _ => .ok plainSource) (loadLibrary ++ overtaken) = some x ∧
      Reloads libraryPlaces.root loadedLibrary [plainSchema, nameSchema]
        [nameSchema, plainSchema] x ∧
      Settled libraryPlaces.root x ∧
      x.registry.get? libraryPlaces.root = some ⟨libraryPlaces, plainSchema⟩ := by
  refine ⟨plainSchema_ne_nameSchema, ?_⟩
  let root := libraryPlaces.root
  let returned : Query × QueryStage := (.reload root, .answered (.reloaded (.ok ())))
  -- the states in between: both calls have read, and then the second one stores before the first
  let first : SharedRegistry :=
    loadedLibrary.withCall (.reload root) (.read libraryPlaces (.ok plainSchema))
  let rewritten : SharedRegistry := { first with files := fun _ => .ok nameSource }
  let second : SharedRegistry :=
    rewritten.withCall (.reload root) (.read libraryPlaces (.ok nameSchema))
  let third : SharedRegistry := { second with
    registry := second.registry.storeSchema root nameSchema
    queries := second.queries.set 2 returned }
  let last : SharedRegistry := { third with
    registry := third.registry.storeSchema root plainSchema
    queries := third.queries.set 1 returned }
  have hreads : Reloads root loadedLibrary [plainSchema, nameSchema] [] second :=
    (reloads_read rfl get?_loadedLibrary readSchema_plainSource).trans
      (reloads_read (x := first) rfl get?_loadedLibrary readSchema_nameSource)
  have hstores : Reloads root loadedLibrary [plainSchema, nameSchema]
      [nameSchema, plainSchema] last :=
    (hreads.step (z := third) (.advance 2) rfl).step (z := last) (.advance 1) rfl
  have hfirst : (loadedLibrary.withCall (.reload root) (.reading libraryPlaces)).step?
      (.advance 1) = some first := step?_read rfl readSchema_plainSource
  have hsecond : (rewritten.withCall (.reload root) (.reading libraryPlaces)).step?
      (.advance 2) = some second := step?_read rfl readSchema_nameSource
  have hrun : run? step? loadedLibrary overtaken = some last :=
    run?_cons.mpr ⟨_, rfl, run?_cons.mpr ⟨_, rfl, run?_cons.mpr ⟨_, rfl, run?_cons.mpr ⟨_, hfirst,
      run?_cons.mpr ⟨_, rfl, run?_cons.mpr ⟨_, rfl, run?_cons.mpr ⟨_, rfl,
        run?_cons.mpr ⟨_, hsecond, run?_cons.mpr ⟨third, rfl, run?_cons.mpr ⟨last, rfl,
          rfl⟩⟩⟩⟩⟩⟩⟩⟩⟩⟩
  refine ⟨last, run?_append.mpr ⟨_, run?_loadLibrary, hrun⟩, hstores, ?_, ?_⟩
  · simp [Settled, last, third, second, rewritten, first, withCall, loadedLibrary, returned]
  · exact hstores.get? run?_loadLibrary get?_loadedLibrary

end PrimitiveDesk.SharedRegistry
