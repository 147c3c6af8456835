import PrimitiveDesk.Proofs.Project.Lookups
import PrimitiveDesk.Proofs.Server.Synchronisation

/-!
# Reading schemata again

When files have changed, the schemata of the loaded projects are read again where their sources are
among these files, and if any could be read, all open documents are checked again. All other calls
only look up projects. So what is told about an open document is always by the schemata that its
project has then, and it stays that way as long as nothing else is told.

Lookups do not change what a check gives, so `publishAll` checks each text as if it were the first
one (`Workspace.fst_publishAll`). `reloadAll` gives every project the schema that is read for it or
leaves it the one that it has (`Workspace.get?_reloadAll`), and so `filesChanged` either checks all
open documents again, or changes nothing (`Workspace.filesChanged_cases`).
-/

namespace PrimitiveDesk

/-- A text that is found is in the store. -/
theorem TextStore.mem_of_get?_eq_some {s : TextStore} {u : Uri} {t : OpenText}
    (h : s.get? u = some t) : (u, t) ∈ s.entries := by
  obtain ⟨e, hfind, rfl⟩ := Option.map_eq_some_iff.mp h
  obtain rfl : e.1 = u := by simpa using List.find?_some hfind
  exact List.mem_of_find?_eq_some hfind

/-- The places of the project that is found for a document. -/
def Uri.places? (u : Uri) (files : FileTree) : Option ProjectPlaces :=
  u.file?.bind (ProjectPlaces.discover? files.hasFile)

namespace Project

variable (p : Project) (files : FileTree) (changes : List Path)

/-- The schema that a project gets when files have changed, if its source is among them and can be
read. -/
def newSchema? : Option ProjectSchema :=
  if changes.any fun c => c.same p.places.schemaFile then
    (p.places.readSchema files.textAt).toOption
  else none

/-- The project when files have changed: with its new schema, or else with the one that it has. -/
def reloaded : Project :=
  { p with schema := (p.newSchema? files changes).getD p.schema }

/-- Without a new schema a project stays as it is. -/
theorem reloaded_of_newSchema?_eq_none {p : Project} (h : p.newSchema? files changes = none) :
    p.reloaded files changes = p := by
  simp [reloaded, h]

end Project

namespace Workspace

open Registry

variable (w : Workspace) (files : FileTree) (host : Host) (uri u : Uri) (position : Position)

/-! ## Lookups -/

/-- `project?` is a lookup. -/
private theorem loads_project? : w.registry.Loads files (w.project? files uri).2.registry := by
  unfold project?
  cases uri.file? with
  | none => exact .refl files w.registry
  | some file => exact loads_projectFor? w.registry files file

/-- A lookup that gives no project adds none. -/
theorem projects_of_project?_eq_none {w : Workspace} {files : FileTree} {u : Uri}
    (h : (w.project? files u).1 = none) :
    (w.project? files u).2.registry.projects = w.registry.projects := by
  unfold project? at h ⊢
  cases hfile : u.file? with
  | none => rfl
  | some file =>
    simp only [hfile] at h
    exact projects_of_projectFor?_eq_none h

/-- `publishAll` makes lookups only. -/
theorem loads_publishAll (entries : List (Uri × OpenText)) :
    w.registry.Loads files (w.publishAll files entries).2.registry := by
  induction entries generalizing w with
  | nil => exact .refl files w.registry
  | cons e rest ih => exact (w.loads_project? files e.1).trans (ih _)

/-- `complete?` makes lookups only. -/
private theorem loads_complete? :
    w.registry.Loads files (w.complete? files uri position).2.registry := by
  have hloads := w.loads_project? files uri
  unfold complete?
  split
  · exact .refl files w.registry
  · generalize w.project? files uri = found at hloads ⊢
    obtain ⟨_ | project, w'⟩ := found <;> exact hloads

/-- `preview` makes lookups only. -/
private theorem loads_preview :
    w.registry.Loads files (w.preview files uri position).2.registry := by
  have hloads := w.loads_project? files uri
  unfold preview
  -- whatever follows the lookup leaves the registry as it is
  generalize w.project? files uri = found at hloads ⊢
  obtain ⟨_ | project, w'⟩ := found
  · exact hloads
  · simp only
    split
    · exact hloads
    · split <;> exact hloads

/-- `buildProject` looks up no project. -/
private theorem registry_buildProject (places : ProjectPlaces) (target : BuildTarget) :
    (w.buildProject host places target).2.1.registry = w.registry := by
  unfold buildProject
  split
  · rfl
  · simp only
    split
    · rfl
    · rfl
    · split <;> rfl

/-- `build` makes lookups only. -/
private theorem loads_build :
    w.registry.Loads host.files (w.build host uri position).2.1.registry := by
  show w.registry.Loads host.files (w.tryBuild host uri position).2.1.registry
  have hloads := w.loads_project? host.files uri
  unfold tryBuild
  split
  · exact .refl _ w.registry
  · -- behind the look-up of the project the registry is not touched any more
    generalize w.project? host.files uri = found at hloads ⊢
    obtain ⟨_ | project, w'⟩ := found
    · exact hloads
    · simp only
      split
      · exact hloads
      · split
        · exact hloads
        · simp only [registry_buildProject]
          exact hloads

/-- Lookups do not change the diagnostics of a text. -/
theorem fst_publish_of_loads {w w' : Workspace} {files : FileTree}
    (h : w.registry.Loads files w'.registry) (uri : Uri) (t : OpenText) :
    (w'.publish files uri t).1 = (w.publish files uri t).1 := by
  have hschema : (w'.project? files uri).1.map (·.schema) =
      (w.project? files uri).1.map (·.schema) := by
    unfold project?
    cases uri.file? with
    | none => rfl
    | some file => exact h.schema_projectFor? file
  have hschemata := congrArg (Option.map (·.schemata)) hschema
  rw [Option.map_map, Option.map_map] at hschemata
  rw [fst_publish, fst_publish]
  exact congrArg _ hschemata

/-- All texts are checked as if each were the first one. -/
theorem fst_publishAll (entries : List (Uri × OpenText)) :
    (w.publishAll files entries).1 = entries.map fun e => (w.publish files e.1 e.2).1 := by
  induction entries generalizing w with
  | nil => rfl
  | cons e rest ih =>
    have hloads : w.registry.Loads files (w.publish files e.1 e.2).2.registry :=
      w.loads_project? files e.1
    have hrest := ih (w.publish files e.1 e.2).2
    rw [List.map_congr_left fun e' _ => fst_publish_of_loads hloads e'.1 e'.2] at hrest
    exact congrArg ((w.publish files e.1 e.2).1 :: ·) hrest

/-- `publishAll` tells the diagnostics of every text that it is given. -/
theorem mem_publishAll {entries : List (Uri × OpenText)} {t : OpenText} {u : Uri}
    (h : (u, t) ∈ entries) (w : Workspace) (files : FileTree) :
    (w.publish files u t).1 ∈ (w.publishAll files entries).1 := by
  rw [fst_publishAll]
  exact List.mem_map.mpr ⟨(u, t), h, rfl⟩

/-! ## The project of a document -/

/-- The project that is loaded at the root of a document, whether or not it is still found. -/
def loaded? : Option Project :=
  (u.file?.bind ProjectPlaces.rootOf?).bind w.registry.get?

/-- Schemata that a document can have been checked by: none, or those of its loaded project. -/
def Backs (schemata? : Option Schemata) : Prop :=
  ∀ s, schemata? = some s → ∃ p, w.loaded? u = some p ∧ p.schema.schemata = s

variable {w files u} {w' : Workspace} {p : Project} {schemata? : Option Schemata}

private theorem loaded?_of_loads (h : w.registry.Loads files w'.registry)
    (hp : w.loaded? u = some p) :
    w'.loaded? u = some p := by
  obtain ⟨root, hroot, hget⟩ := Option.bind_eq_some_iff.mp hp
  exact Option.bind_eq_some_iff.mpr ⟨root, hroot, h.get?_eq_some hget⟩

private theorem Backs.of_loads (h : w.Backs u schemata?)
    (hloads : w.registry.Loads files w'.registry) :
    w'.Backs u schemata? := by
  intro s hs
  obtain ⟨p, hp, hschemata⟩ := h s hs
  exact ⟨p, loaded?_of_loads hloads hp, hschemata⟩

/-- Where no project is found, `project?` gives none. -/
private theorem project?_of_places?_eq_none (h : u.places? files = none) (w : Workspace) :
    (w.project? files u).1 = none := by
  unfold Uri.places? at h
  unfold project?
  cases hfile : u.file? with
  | none => rfl
  | some file =>
    rw [hfile, Option.bind_some] at h
    simp only [projectFor?_of_discover?_eq_none h]

/-- A loaded project is the one that a lookup gives, if any is found. -/
theorem project?_of_loaded? (hp : w.loaded? u = some p) (h : (u.places? files).isSome) :
    (w.project? files u).1 = some p := by
  obtain ⟨places, hplaces⟩ := Option.isSome_iff_exists.mp h
  obtain ⟨file, hfile, hdiscover⟩ := Option.bind_eq_some_iff.mp hplaces
  obtain ⟨root, hroot, hget⟩ := Option.bind_eq_some_iff.mp hp
  rw [hfile, Option.bind_some, (ProjectPlaces.of_discover? hdiscover).1, Option.some_inj] at hroot
  simp only [project?, hfile]
  have hcases := projectFor?_of_discover? hdiscover w.registry
  rw [hroot] at hcases
  obtain ⟨p', hget', hr⟩ | ⟨hget', -⟩ := hcases
  · rw [hr]
    exact hget'.symm.trans hget
  · rw [hget'] at hget
    cases hget

/-- The project that a lookup gives is loaded afterwards. -/
theorem loaded?_of_project? (hp : (w.project? files u).1 = some p) :
    (w.project? files u).2.loaded? u = some p := by
  cases hplaces : u.places? files with
  | none =>
    rw [project?_of_places?_eq_none hplaces] at hp
    cases hp
  | some places =>
    obtain ⟨file, hfile, hdiscover⟩ := Option.bind_eq_some_iff.mp hplaces
    simp only [project?, hfile] at hp
    simp only [loaded?, project?, hfile, Option.bind_some, (ProjectPlaces.of_discover? hdiscover).1]
    exact get?_of_projectFor? hdiscover hp

/-- A text is checked by the schemata of a project that is loaded then. -/
private theorem exists_publish_eq (w : Workspace) (files : FileTree) (u : Uri) (t : OpenText) :
    ∃ schemata?, (w.publish files u t).1 = .ofText u t schemata? ∧
      (w.publish files u t).2.Backs u schemata? := by
  refine ⟨_, w.fst_publish files u t, fun s hs => ?_⟩
  obtain ⟨p, hp, rfl⟩ := Option.map_eq_some_iff.mp hs
  exact ⟨p, loaded?_of_project? hp, rfl⟩

/-! ## Reading schemata again -/

section Reload

variable (files) (changes : List Path)

/-- `reloadAll` leaves a project without a new schema as it is. -/
private theorem reloadAll_cons_of_none (rest : List Project)
    (hp : w.registry.get? p.places.root = some p) (h : p.newSchema? files changes = none) :
    (w.reloadAll files changes (p :: rest)).1 = (w.reloadAll files changes rest).1 ∧
      (w.reloadAll files changes (p :: rest)).2.2 = (w.reloadAll files changes rest).2.2 := by
  unfold Project.newSchema? at h
  rw [reloadAll]
  -- the source is not among the files, or cannot be read
  split
  · next hnamed =>
    rw [if_pos hnamed] at h
    cases hread : p.places.readSchema files.textAt with
    | ok s =>
      rw [hread] at h
      cases h
    | error e => simp only [Registry.reload, hp, hread, and_self]
  · exact ⟨rfl, rfl⟩

/-- `reloadAll` stores a new schema. -/
private theorem reloadAll_cons_of_some (rest : List Project) {s : ProjectSchema}
    (hp : w.registry.get? p.places.root = some p) (h : p.newSchema? files changes = some s) :
    (w.reloadAll files changes (p :: rest)).1 = true ∧
      (w.reloadAll files changes (p :: rest)).2.2 =
        ({ w with registry := w.registry.storeSchema p.places.root s }.reloadAll
          files changes rest).2.2 := by
  unfold Project.newSchema? at h
  -- a new schema is there only if the changes name its source and it can be read
  rw [reloadAll]
  split
  · next hnamed =>
    rw [if_pos hnamed] at h
    cases hread : p.places.readSchema files.textAt with
    | ok s' =>
      rw [hread] at h
      obtain rfl : s' = s := Option.some_inj.mp h
      simp only [Registry.reload, hp, hread, and_self]
    | error e =>
      rw [hread] at h
      cases h
  · next hnamed =>
    rw [if_neg hnamed] at h
    cases h

/-- `reloadAll` leaves every project at its root. -/
private theorem keyed_reloadAll (h : w.registry.Keyed) (projects : List Project) :
    (w.reloadAll files changes projects).2.2.registry.Keyed := by
  induction projects generalizing w with
  | nil => exact h
  | cons p rest ih =>
    rw [reloadAll]
    split
    · split
      · next registry hreload =>
        refine ih (w := { w with registry }) ?_
        -- a reload that succeeds has stored a schema
        unfold Registry.reload at hreload
        split at hreload
        · cases hreload
        · split at hreload
          · cases hreload
            exact h.storeSchema _ _
          · cases hreload
      · exact ih h
    · exact ih h

/-- `reloadAll` gives each project of a list its new schema, if the projects have different roots
and are all loaded. The induction is on the list; what is stored for one project is not seen by the
others. -/
private theorem reloadAll_eq {projects : List Project}
    (hroots : projects.Pairwise fun p q => p.places.root.same q.places.root = false)
    (hloaded : ∀ p ∈ projects, w.registry.get? p.places.root = some p) :
    (w.reloadAll files changes projects).1 =
        projects.any (fun p => (p.newSchema? files changes).isSome) ∧
      ∀ root, (w.reloadAll files changes projects).2.2.registry.get? root =
        (w.registry.get? root).map fun q =>
          if projects.any (·.places.root.same root) then q.reloaded files changes else q := by
  induction projects generalizing w with
  | nil => exact ⟨rfl, fun root => by simp [reloadAll]⟩
  | cons p rest ih =>
    obtain ⟨hfirst, hrest⟩ := List.pairwise_cons.mp hroots
    have hp := hloaded p List.mem_cons_self
    have hothers : ∀ q ∈ rest, w.registry.get? q.places.root = some q :=
      fun q hq => hloaded q (List.mem_cons_of_mem p hq)
    cases hnew : p.newSchema? files changes with
    | none =>
      obtain ⟨hflag, hstate⟩ := reloadAll_cons_of_none files changes rest hp hnew
      obtain ⟨ihflag, ihget⟩ := ih hrest hothers
      refine ⟨by rw [hflag, ihflag, List.any_cons, hnew]; rfl, fun root => ?_⟩
      rw [hstate, ihget, List.any_cons]
      cases hsame : p.places.root.same root with
      | false => rfl
      | true =>
        -- the project itself stays as it is, whether or not it is reloaded
        rw [← get?_congr hsame, hp, Option.map_some, Option.map_some,
          Project.reloaded_of_newSchema?_eq_none files changes hnew, ite_self, ite_self]
    | some s =>
      obtain ⟨hflag, hstate⟩ := reloadAll_cons_of_some files changes rest hp hnew
      have hothers' : ∀ q ∈ rest,
          (w.registry.storeSchema p.places.root s).get? q.places.root = some q := by
        intro q hq
        rw [get?_storeSchema, if_neg (by simp [hfirst q hq]), hothers q hq]
      obtain ⟨-, ihget⟩ := ih (w := { w with
        registry := w.registry.storeSchema p.places.root s }) hrest hothers'
      refine ⟨by rw [hflag, List.any_cons, hnew]; rfl, fun root => ?_⟩
      rw [hstate, ihget, get?_storeSchema, List.any_cons]
      cases hsame : p.places.root.same root with
      | false => simp
      | true =>
        have hnone : rest.any (·.places.root.same root) = false := by
          rw [List.any_eq_false]
          intro q hq
          rw [← Path.same_congr hsame, Path.same_comm, hfirst q hq]
          simp
        have hreloaded : p.reloaded files changes = { p with schema := s } := by
          simp [Project.reloaded, hnew]
        rw [← get?_congr hsame, hp, hnone]
        simp [hreloaded]

variable (h : w.registry.Keyed)

include h

/-- Every project is there with its new schema, or else with the one that it had. -/
theorem get?_reloadAll (root : Path) :
    (w.reloadAll files changes w.registry.projects).2.2.registry.get? root =
      (w.registry.get? root).map (Project.reloaded · files changes) := by
  rw [(reloadAll_eq files changes h.pairwise_projects fun _ => h.get?_of_mem_projects).2]
  cases hget : w.registry.get? root with
  | none => rfl
  | some p =>
    have hmem : p ∈ w.registry.projects := (mem_projects_iff h.distinct).mpr ⟨root, hget⟩
    rw [Option.map_some, Option.map_some,
      if_pos (List.any_eq_true.mpr ⟨p, hmem, h.home hget⟩)]

/-- The loaded project of a document after `reloadAll`. -/
private theorem loaded?_reloadAll (u : Uri) :
    (w.reloadAll files changes w.registry.projects).2.2.loaded? u =
      (w.loaded? u).map (Project.reloaded · files changes) := by
  unfold loaded?
  cases u.file?.bind ProjectPlaces.rootOf? with
  | none => rfl
  | some root => exact get?_reloadAll files changes h root

/-- `reloadAll` tells whether any project has a new schema. -/
private theorem fst_reloadAll :
    (w.reloadAll files changes w.registry.projects).1 =
      w.registry.projects.any fun p => (p.newSchema? files changes).isSome :=
  (reloadAll_eq files changes h.pairwise_projects fun _ => h.get?_of_mem_projects).1

omit h in
/-- If no project has a new schema, `reloadAll` changes nothing. -/
private theorem reloadAll_of_forall_none {projects : List Project}
    (hloaded : ∀ p ∈ projects, w.registry.get? p.places.root = some p)
    (hnone : ∀ p ∈ projects, p.newSchema? files changes = none) :
    (w.reloadAll files changes projects).2.2 = w := by
  induction projects with
  | nil => rfl
  | cons p rest ih =>
    rw [(reloadAll_cons_of_none files changes rest (hloaded p List.mem_cons_self)
      (hnone p List.mem_cons_self)).2]
    exact ih (fun q hq => hloaded q (List.mem_cons_of_mem p hq))
      fun q hq => hnone q (List.mem_cons_of_mem p hq)

end Reload

/-! ## What happens to the diagnostics of one document -/

/-- Between two states the diagnostics of an open document keep up with the schemata: what is told
about it is by the schemata of a loaded project or by none, and if nothing is told, that stays true
of what was told before. -/
structure Rechecks (u : Uri) (w : Workspace) (notices : List Notice) (w' : Workspace) : Prop where
  keyed : w.registry.Keyed → w'.registry.Keyed
  shown : w.registry.Keyed → w.texts.Distinct → ∀ n ∈ notices, n.isAbout u →
    ∀ d, w'.texts.get? u = some d → ∃ schemata?, n = .ofText u d schemata? ∧ w'.Backs u schemata?
  kept : w.registry.Keyed → (w.texts.get? u).isSome → (∀ n ∈ notices, n.isAbout u = false) →
    ∀ schemata?, w.Backs u schemata? → w'.Backs u schemata?

/-- Calls that look up projects and tell nothing about documents. -/
private theorem Rechecks.of_loads {notices : List Notice} (u : Uri)
    (hloads : w.registry.Loads files w'.registry) (hnotices : ∀ n ∈ notices, n.isAbout u = false) :
    Rechecks u w notices w' where
  keyed h := h.loads hloads
  shown _ _ n hn habout := absurd habout (by simp [hnotices n hn])
  kept _ _ _ _ h := h.of_loads hloads

/-- A document that is opened is checked by the project that is looked up for it. -/
private theorem rechecks_opened (w : Workspace) (files : FileTree) (uri u : Uri) (t : OpenText) :
    Rechecks u w (w.opened files uri t).1 (w.opened files uri t).2 where
  keyed h := h.loads (w.loads_project? files uri)
  shown _ _ n hn habout d hd := by
    obtain rfl : n = (w.publish files uri t).1 := List.mem_singleton.mp hn
    obtain rfl : uri = u := of_decide_eq_true habout
    have htexts : (w.opened files uri t).2.texts = w.texts.insert uri t :=
      w.texts_store files uri t
    rw [htexts, TextStore.get?_insert, if_pos rfl, Option.some_inj] at hd
    exact hd ▸ w.exists_publish_eq files uri t
  kept _ _ _ _ h := h.of_loads (w.loads_project? files uri)

/-- A document that is closed has no text to be checked. -/
private theorem rechecks_closed (w : Workspace) (uri u : Uri) :
    Rechecks u w (w.closed uri).1 (w.closed uri).2 where
  keyed h := h
  shown _ _ n hn habout d hd := by
    -- what is told is that there is no text any more
    obtain rfl := List.mem_singleton.mp hn
    obtain rfl : uri = u := of_decide_eq_true habout
    have htexts : (w.closed uri).2.texts = w.texts.erase uri := rfl
    rw [htexts, TextStore.get?_erase, if_pos rfl] at hd
    cases hd
  kept _ _ _ _ h := h

/-- Either a schema was read again, and `filesChanged` checks all open texts in the state after
that, or nothing has changed. -/
theorem filesChanged_cases (h : w.registry.Keyed) (files : FileTree) (uris : List Uri) :
    let changes := uris.filterMap Uri.file?
    let w₁ := (w.reloadAll files changes w.registry.projects).2.2
    ((∃ p ∈ w.registry.projects, (p.newSchema? files changes).isSome) ∧
        (w.filesChanged files uris).2 = (w₁.publishAll files w.texts.entries).2 ∧
        ∃ quiet, (∀ n ∈ quiet, ∀ u, n.isAbout u = false) ∧
          (w.filesChanged files uris).1 = quiet ++ (w₁.publishAll files w.texts.entries).1) ∨
      (∀ p ∈ w.registry.projects, p.newSchema? files changes = none) ∧
        (w.filesChanged files uris).2 = w ∧
        ∀ n ∈ (w.filesChanged files uris).1, ∀ u, n.isAbout u = false := by
  intro changes w₁
  have hquiet : ∀ n ∈ (w.reloadAll files changes w.registry.projects).2.1,
      ∀ u, n.isAbout u = false := fun n hn u => w.not_isAbout_of_mem_reloadAll files u hn
  have hflag := fst_reloadAll files changes h
  -- reading schemata leaves the texts alone, so the open ones are those from before
  have htexts : w₁.texts = w.texts := w.texts_reloadAll files changes _
  cases hread : (w.reloadAll files changes w.registry.projects).1 with
  | true =>
    have hsome := List.any_eq_true.mp (hflag.symm.trans hread)
    have hchanged : w.filesChanged files uris =
        ((w.reloadAll files changes w.registry.projects).2.1 ++
          (w₁.publishAll files w₁.texts.entries).1, (w₁.publishAll files w₁.texts.entries).2) := by
      show (if (w.reloadAll files changes w.registry.projects).1 then _ else _) = _
      rw [if_pos hread]
    rw [hchanged, htexts]
    exact .inl ⟨hsome, rfl, _, hquiet, rfl⟩
  | false =>
    have hnone : ∀ p ∈ w.registry.projects, p.newSchema? files changes = none := by
      simpa using hflag.symm.trans hread
    have hchanged : w.filesChanged files uris =
        ((w.reloadAll files changes w.registry.projects).2.1, w₁) := by
      show (if (w.reloadAll files changes w.registry.projects).1 then _ else _) = _
      rw [if_neg (by simp [hread])]
    rw [hchanged]
    exact .inr ⟨hnone, reloadAll_of_forall_none files changes
      (fun _ => h.get?_of_mem_projects) hnone, hquiet⟩

/-- The loaded project of a document is among the projects. -/
theorem mem_projects_of_loaded? (h : w.registry.Keyed) (hp : w.loaded? u = some p) :
    p ∈ w.registry.projects := by
  obtain ⟨root, -, hget⟩ := Option.bind_eq_some_iff.mp hp
  exact (mem_projects_iff h.distinct).mpr ⟨root, hget⟩

/-- The loaded project of a document is there with its new schema, or else with the one that it
had. -/
theorem loaded?_filesChanged (h : w.registry.Keyed) (hp : w.loaded? u = some p) (files : FileTree)
    (uris : List Uri) :
    (w.filesChanged files uris).2.loaded? u =
      some (p.reloaded files (uris.filterMap Uri.file?)) := by
  obtain ⟨-, hw, -⟩ | ⟨hnone, hw, -⟩ := filesChanged_cases h files uris
  · have hreloaded := loaded?_reloadAll files (uris.filterMap Uri.file?) h u
    rw [hp, Option.map_some] at hreloaded
    rw [hw]
    exact loaded?_of_loads (loads_publishAll _ files _) hreloaded
  · rw [hw, hp, Project.reloaded_of_newSchema?_eq_none files _
      (hnone p (mem_projects_of_loaded? h hp))]

/-- Texts are checked by the schemata of projects that are loaded when all of them are checked. -/
private theorem exists_backs_of_mem_publishAll {entries : List (Uri × OpenText)} {n : Notice}
    (h : n ∈ (w.publishAll files entries).1) :
    ∃ e ∈ entries, ∃ schemata?, n = .ofText e.1 e.2 schemata? ∧
      (w.publishAll files entries).2.Backs e.1 schemata? := by
  induction entries generalizing w with
  | nil => cases h
  | cons e rest ih =>
    obtain rfl | hrest := List.mem_cons.mp h
    · obtain ⟨schemata?, hn, hbacks⟩ := w.exists_publish_eq files e.1 e.2
      exact ⟨e, List.mem_cons_self, schemata?, hn, hbacks.of_loads (loads_publishAll _ files rest)⟩
    · obtain ⟨e', he', hshown⟩ := ih hrest
      exact ⟨e', List.mem_cons_of_mem e he', hshown⟩

/-- Changed files lead to a check of all open documents, or to nothing. -/
private theorem rechecks_filesChanged (w : Workspace) (files : FileTree) (u : Uri)
    (uris : List Uri) :
    Rechecks u w (w.filesChanged files uris).1 (w.filesChanged files uris).2 where
  keyed h := by
    obtain ⟨-, hw, -⟩ | ⟨-, hw, -⟩ := filesChanged_cases h files uris
    · rw [hw]
      exact (keyed_reloadAll files _ h _).loads (loads_publishAll _ files _)
    · rw [hw]
      exact h
  shown h htexts n hn habout d hd := by
    rw [texts_filesChanged] at hd
    obtain ⟨-, hw, quiet, hquiet, hnotices⟩ | ⟨-, -, hquiet⟩ := filesChanged_cases h files uris
    · rw [hnotices] at hn
      obtain hn | hn := List.mem_append.mp hn
      · exact absurd habout (by simp [hquiet n hn u])
      · obtain ⟨e, he, schemata?, rfl, hbacks⟩ := exists_backs_of_mem_publishAll hn
        obtain rfl : e.1 = u := of_decide_eq_true habout
        obtain rfl : e.2 = d := Option.some_inj.mp ((htexts.get?_eq_some he).symm.trans hd)
        exact ⟨schemata?, rfl, hw ▸ hbacks⟩
    · exact absurd habout (by simp [hquiet n hn u])
  kept h hopen hnone schemata? hbacks := by
    obtain ⟨-, -, quiet, -, hnotices⟩ | ⟨-, hw, -⟩ := filesChanged_cases h files uris
    · -- an open text is checked, so something is told about it
      obtain ⟨d, hd⟩ := Option.isSome_iff_exists.mp hopen
      have htold := mem_publishAll (TextStore.mem_of_get?_eq_some hd)
        (w.reloadAll files (uris.filterMap Uri.file?) w.registry.projects).2.2 files
      have hquiet := hnone _ (hnotices ▸ List.mem_append_right quiet htold)
      simp [fst_publish, Notice.ofText, Notice.isAbout] at hquiet
    · rw [hw]
      exact hbacks

end Workspace

namespace Session

open Workspace

/-- What a call does to the diagnostics of a document and their schemata. -/
theorem rechecks_answer (w : Workspace) (host : Host) (call : Call) (u : Uri) :
    Rechecks u w (answer w host call).2.1 (answer w host call).2.2.1 := by
  -- the calls that leave the workspace as it is
  have hsame : Rechecks u w [] w := .of_loads u (.refl host.files w.registry) (by simp)
  cases call with
  | opened uri text version =>
    obtain ⟨v, -, hact⟩ | ⟨-, e, hrefuse⟩ := withUri_cases uri
    · simp only [answer, hact]
      exact w.rechecks_opened host.files v u ⟨text, version⟩
    · simp only [answer, hrefuse]
      exact hsame
  | changed uri texts version =>
    obtain ⟨v, -, hact⟩ | ⟨-, e, hrefuse⟩ := withUri_cases uri
    · simp only [answer, hact]
      cases texts with
      | nil => exact hsame
      | cons text rest => exact w.rechecks_opened host.files v u ⟨text, version⟩
    · simp only [answer, hrefuse]
      exact hsame
  | closed uri =>
    obtain ⟨v, -, hact⟩ | ⟨-, e, hrefuse⟩ := withUri_cases uri
    · simp only [answer, hact]
      exact w.rechecks_closed v u
    · simp only [answer, hrefuse]
      exact hsame
  | filesChanged uris =>
    simp only [answer]
    split
    · exact hsame
    · exact w.rechecks_filesChanged host.files u _
  | complete uri position =>
    obtain ⟨v, -, hact⟩ | ⟨-, e, hrefuse⟩ := withUri_cases uri
    · simp only [answer, hact]
      exact .of_loads u (w.loads_complete? host.files v position) (by simp)
    · simp only [answer, hrefuse]
      exact hsame
  | symbols uri =>
    obtain ⟨v, -, hact⟩ | ⟨-, e, hrefuse⟩ := withUri_cases uri
    · simp only [answer, hact]
      exact hsame
    · simp only [answer, hrefuse]
      exact hsame
  | command name arguments =>
    simp only [answer, command]
    split
    · split
      · exact hsame
      · exact .of_loads u (w.loads_preview ..) fun n => w.not_isAbout_of_mem_preview _ _ u _
    · split
      · exact hsame
      · exact .of_loads u (w.loads_build ..) fun n => w.not_isAbout_of_mem_build _ _ u _
    · exact .of_loads u (.refl host.files w.registry) (List.forall_mem_nil _)
    · exact hsame
  | shutdown => exact .of_loads u (.refl host.files w.registry) (List.forall_mem_nil _)

end Session

end PrimitiveDesk
