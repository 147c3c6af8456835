import PrimitiveDesk.Proofs.Schema.ReadableSources
import PrimitiveDesk.Proofs.Server.SchemaReload

/-!
# Diagnostics after a change of schemata

What is shown of an open document when files have changed. It is what a check gives now, except in
two cases: the document was checked before its project was loaded, and nothing has led to a check
since; or its project is loaded but is not found any more. A project that could not be loaded is not
among those that are read again, so a repair of its schema source changes nothing that is shown
(`Transcript.repaired_schema_is_not_shown`).

`Transcript.Current` is the invariant of the runs: the diagnostics that were shown last are by the
schemata of a loaded project or by none (`Transcript.current_after`).
-/

namespace PrimitiveDesk

/-! ## Runs -/

namespace Transcript

open Schemata (nameSource nameSchemata ofSource_nameSource)

/-- The diagnostics of an open document that were shown last are by the schemata of a project that
is loaded at its root, or by none. -/
structure Current (t : Transcript) (u : Uri) : Prop where
  keyed : t.session.workspace.registry.Keyed
  distinct : t.session.workspace.texts.Distinct
  shown : ∀ d, t.session.workspace.texts.get? u = some d →
    ∃ schemata?, t.shown? u = some (.ofText u d schemata?) ∧
      t.session.workspace.Backs u schemata?

variable {t : Transcript} {u : Uri}

/-- At the start no document is open. -/
private theorem current_start (settings : Settings) (options? : Option Json) (u : Uri) :
    (start settings options?).Current u := by
  have hfollows := follows_start settings options? u
  have hregistry : (start settings options?).session.workspace.registry = .empty := by
    show ((Workspace.ofSettings settings).configure options?).registry = _
    unfold Workspace.configure
    split <;> rfl
  refine ⟨hregistry ▸ Registry.keyed_empty, hfollows.distinct, fun d hd => ?_⟩
  rw [hfollows.get?] at hd
  cases hd

/-- `Current` holds after one more call in a session that is not over. -/
private theorem Current.next (h : t.Current u) (hover : t.session.isOver = false) (host : Host)
    (call : Call) : (t.next (host, call)).Current u := by
  have hup := Session.updates_answer t.session.workspace host call u
  have hre := Session.rechecks_answer t.session.workspace host call u
  rw [next_of_not_isOver hover]
  generalize Session.answer t.session.workspace host call = answer at hup hre ⊢
  refine ⟨hre.keyed h.keyed, hup.distinct h.distinct, fun d hd => ?_⟩
  rw [shown?_append]
  cases hlast : (answer.2.1.filter (·.isAbout u)).getLast? with
  | some n =>
    obtain ⟨hmem, habout⟩ := List.mem_filter.mp (List.mem_of_getLast? hlast)
    obtain ⟨schemata?, rfl, hbacks⟩ := hre.shown h.keyed h.distinct n hmem habout d hd
    exact ⟨schemata?, rfl, hbacks⟩
  | none =>
    -- nothing is told about the document, so its text is the one that was shown
    have hsame : t.session.workspace.texts.get? u = some d := by
      have hget := hup.get?
      rw [hup.eq_none_of_getLast? hlast, Option.getD_none] at hget
      exact hget.symm.trans hd
    obtain ⟨schemata?, hshown, hbacks⟩ := h.shown d hsame
    have hquiet : ∀ n ∈ answer.2.1, n.isAbout u = false := by
      simpa [List.filter_eq_nil_iff] using List.getLast?_eq_none_iff.mp hlast
    refine ⟨schemata?, hshown, hre.kept h.keyed ?_ hquiet schemata? hbacks⟩
    rw [hsame]
    rfl

/-- `Current` holds over every run. -/
theorem current_after (settings : Settings) (options? : Option Json) (events : List (Host × Call))
    (u : Uri) : (after settings options? events).Current u := by
  unfold after
  induction events using List.reverseRecOn with
  | nil => exact current_start settings options? u
  | append_singleton events event ih =>
    rw [List.foldl_append]
    -- a session that is over answers nothing any more
    cases hover : (events.foldl Transcript.next (start settings options?)).session.isOver with
    | true =>
      rw [foldl_next_of_isOver hover]
      exact ih
    | false => exact ih.next hover event.1 event.2

/-! ## Changed files -/

private theorem after_append (settings : Settings) (options? : Option Json)
    (events : List (Host × Call)) (event : Host × Call) :
    after settings options? (events ++ [event]) = (after settings options? events).next event :=
  List.foldl_append

/-- Changed files whose addresses can be read are handled by `filesChanged`. -/
private theorem next_filesChanged (hover : t.session.isOver = false) (host : Host)
    {uris : List String}
    {us : List Uri} (hus : (uris.mapM fun v => (Uri.ofText v).toOption) = some us) :
    t.next (host, .filesChanged uris) =
      ⟨t.told ++ (t.session.workspace.filesChanged host.files us).1,
        (t.session.workspace.filesChanged host.files us).2, false⟩ := by
  rw [next_of_not_isOver hover]
  simp only [Session.answer, hus, Call.isShutdown]

/-- What is shown of an open document is what a check gives with some files, unless the check finds
a project where none was, or does not find the loaded one. -/
private theorem Current.shown_cases (h : t.Current u) (files : FileTree) {d : OpenText}
    (hopen : t.session.workspace.texts.get? u = some d) :
    t.shown? u = some (t.session.workspace.publish files u d).1 ∨
      t.shown? u = some (.ofText u d none) ∧ (t.session.workspace.project? files u).1.isSome ∨
      (∃ p, t.session.workspace.loaded? u = some p ∧
        t.shown? u = some (.ofText u d (some p.schema.schemata))) ∧ u.places? files = none := by
  obtain ⟨schemata?, hshown, hbacks⟩ := h.shown d hopen
  rw [hshown, Workspace.fst_publish]
  -- by no schema it was shown before the project was loaded, or there still is none
  cases schemata? with
  | none =>
    cases hfound : (t.session.workspace.project? files u).1 with
    | none => exact .inl rfl
    | some p => exact .inr (.inl ⟨rfl, rfl⟩)
  | some s =>
    obtain ⟨p, hp, rfl⟩ := hbacks s rfl
    cases hplaces : u.places? files with
    | none => exact .inr (.inr ⟨⟨p, hp, rfl⟩, rfl⟩)
    | some places =>
      refine .inl ?_
      rw [Workspace.project?_of_loaded? hp (by rw [hplaces]; rfl)]
      rfl

/-- If a schema was read again, an open document is shown as it is checked now. -/
private theorem Current.shown?_of_newSchema? (h : t.Current u) (files : FileTree) {us : List Uri}
    {d : OpenText} (hopen : t.session.workspace.texts.get? u = some d)
    (hnew : ∃ p ∈ t.session.workspace.registry.projects,
      (p.newSchema? files (us.filterMap Uri.file?)).isSome) :
    ((t.session.workspace.filesChanged files us).1.filter (·.isAbout u)).getLast? =
      some ((t.session.workspace.filesChanged files us).2.publish files u d).1 := by
  obtain ⟨-, hw, quiet, hquiet, hnotices⟩ | ⟨hnone, -⟩ :=
    Workspace.filesChanged_cases h.keyed files us
  · generalize hw₁ : (t.session.workspace.reloadAll files (us.filterMap Uri.file?)
      t.session.workspace.registry.projects).2.2 = w₁ at hw hnotices
    -- checking the other texts loads projects only, so it does not matter when the check is made
    have hnow : ((t.session.workspace.filesChanged files us).2.publish files u d).1 =
        (w₁.publish files u d).1 := by
      rw [hw]
      exact Workspace.fst_publish_of_loads (w₁.loads_publishAll files _) u d
    rw [hnow, hnotices]
    have htold := Workspace.mem_publishAll (TextStore.mem_of_get?_eq_some hopen) w₁ files
    have habout : (w₁.publish files u d).1.isAbout u = true := by
      simp [Workspace.fst_publish, Notice.ofText, Notice.isAbout]
    cases hlast : ((quiet ++ (w₁.publishAll files
        t.session.workspace.texts.entries).1).filter (·.isAbout u)).getLast? with
    | none =>
      have hmem := List.mem_filter.mpr ⟨List.mem_append_right quiet htold, habout⟩
      rw [List.getLast?_eq_none_iff.mp hlast] at hmem
      cases hmem
    | some n =>
      -- the document has one text, so there is one notice about it
      obtain ⟨hmem, hn⟩ := List.mem_filter.mp (List.mem_of_getLast? hlast)
      obtain hmem | hmem := List.mem_append.mp hmem
      · exact absurd hn (by simp [hquiet n hmem u])
      · rw [Workspace.fst_publishAll] at hmem
        obtain ⟨e, he, rfl⟩ := List.mem_map.mp hmem
        obtain rfl : e.1 = u := of_decide_eq_true hn
        obtain rfl : e.2 = d := Option.some_inj.mp ((h.distinct.get?_eq_some he).symm.trans hopen)
        rfl
  · obtain ⟨p, hp, hsome⟩ := hnew
    rw [hnone p hp] at hsome
    cases hsome

/-- If no schema was read again, nothing changes and nothing is told about documents. -/
private theorem Current.next_filesChanged_of_forall_none (h : t.Current u)
    (hover : t.session.isOver = false) (host : Host) {uris : List String} {us : List Uri}
    (hus : (uris.mapM fun v => (Uri.ofText v).toOption) = some us)
    (hnone : ∀ p ∈ t.session.workspace.registry.projects,
      p.newSchema? host.files (us.filterMap Uri.file?) = none) :
    (t.next (host, .filesChanged uris)).session.workspace = t.session.workspace ∧
      (t.next (host, .filesChanged uris)).shown? u = t.shown? u := by
  rw [next_filesChanged hover host hus, shown?_append]
  obtain ⟨⟨p, hp, hsome⟩, -⟩ | ⟨-, hsame, hquiet⟩ :=
    Workspace.filesChanged_cases h.keyed host.files us
  · rw [hnone p hp] at hsome
    cases hsome
  · have hnil : (t.session.workspace.filesChanged host.files us).1.filter (·.isAbout u) = [] :=
      List.filter_eq_nil_iff.mpr fun n hn => by simp [hquiet n hn u]
    rw [hnil, List.getLast?_nil, Option.none_or]
    exact ⟨hsame, rfl⟩

/-! ## A project with one document -/

/-- A schema source that is no YAML. -/
def brokenSource : String := "extension: [\n"

/-- A machine with a project at its root, of which only the schema source counts. -/
def machineWith (source : String) : Host where
  files := .folder [("generator", .folder [("config", .folder [("generator", .folder
    [("tsl_generator_schema.yaml", .file (Text.encode source) false)])])])]
  searchPath := []
  cpuFlags := []

/-- The places of that project. -/
def rootPlaces : ProjectPlaces := ⟨.tsl, ⟨true, [""]⟩⟩

/-- The address of a document in that project. -/
def sumUri : Uri := ⟨"file", some "", none, "/primitive_data/primitives/sum.yaml", ""⟩

/-- A text without a name. -/
def sumText : OpenText := ⟨"title: sum\n", 1⟩

/-- The document is opened. -/
def openSum : Call := .opened "file:///primitive_data/primitives/sum.yaml" sumText.content 1

/-- The address of the schema source, as it is told. -/
def schemaAddress : String := "file:///generator/config/generator/tsl_generator_schema.yaml"

/-- The address of the schema source. -/
def schemaUri : Uri :=
  ⟨"file", some "", none, "/generator/config/generator/tsl_generator_schema.yaml", ""⟩

private theorem decode?_nameSource : Text.decode? (Text.encode nameSource) = some nameSource := by
  decide +kernel

private theorem decode?_brokenSource :
    Text.decode? (Text.encode brokenSource) = some brokenSource := by
  decide +kernel

private theorem mapM_schemaAddress :
    ([schemaAddress].mapM fun v => (Uri.ofText v).toOption) = some [schemaUri] := by
  decide +kernel

/-- The schema source of `machineWith` is found. -/
private theorem textAt_machineWith {source : String}
    (h : Text.decode? (Text.encode source) = some source) :
    (machineWith source).files.textAt rootPlaces.schemaFile = .ok source := by
  have hresolve : (machineWith source).files.resolve (.ofText "/") rootPlaces.schemaFile =
      .ok ["generator", "config", "generator", "tsl_generator_schema.yaml"] := by rfl
  have hname : ["generator", "config", "generator", "tsl_generator_schema.yaml"].any
      (·.contains '\x00') = false := by
    simp only [String.contains_char_eq]
    decide
  have hfind : (machineWith source).files.find
      ["generator", "config", "generator", "tsl_generator_schema.yaml"] =
        .ok (.file (Text.encode source) false) := by rfl
  simp only [FileTree.textAt, FileTree.textFrom, hresolve, FileTree.readText, FileTree.read, hname,
    hfind, h, Bool.false_eq_true, if_false]

/-- The schema that `readSchema` finds on such a machine. -/
private theorem toOption_readSchema_machineWith {source : String}
    (h : Text.decode? (Text.encode source) = some source) :
    (rootPlaces.readSchema (machineWith source).files.textAt).toOption =
      (Schemata.ofSource source).toOption.map (ProjectSchema.ofSchemata .tsl) := by
  unfold ProjectPlaces.readSchema
  rw [textAt_machineWith h]
  exact ProjectPlaces.toOption_ofSource rootPlaces source

private theorem ofSource_brokenSource : (Schemata.ofSource brokenSource).toOption = none := by
  have hnone : (Schemata.ofSource brokenSource).toOption.isNone = true := by decide +kernel
  exact Option.isNone_iff_eq_none.mp hnone

/-- Whether a document is a mapping without a name. -/
def lacksName (d : Yaml.Document) : Bool :=
  match d.root? with
  | some (.mapping entries span) => ((Yaml.Node.mapping entries span).get? "name").isNone
  | _ => false

/-- A mapping without a name has one finding by `nameSchemata`. -/
private theorem findings_of_lacksName {d : Yaml.Document} (h : lacksName d = true) :
    ∃ span, nameSchemata.findings .primitive [d] = [⟨.missingRequired "name", span⟩] := by
  unfold lacksName at h
  split at h
  · next entries span hroot =>
    have hget := Option.isNone_iff_eq_none.mp h
    refine ⟨Finding.startOf (.mapping entries span), ?_⟩
    simp [Schemata.findings, Schemata.levelOf?, nameSchemata, hroot, Finding.ofLevel,
      Finding.ofField, hget, Finding.ofAbsent, SchemaNode.isRequired, SchemaNode.info,
      FieldInfo.bare, Cardinality.required]
  · cases h

/-- The text has no fault of its own, and by the schema its name is missing. -/
private theorem ofText_sumText :
    Notice.ofText sumUri sumText none = .diagnostics sumUri [] (some 1) ∧
      ∃ item, Notice.ofText sumUri sumText (some nameSchemata) =
          .diagnostics sumUri [item] (some 1) ∧
        item.message = "Missing required field `name`" := by
  obtain ⟨hproblems, hdocuments⟩ :
      (Yaml.Stream.ofText sumText.content).problems.isEmpty = true ∧
        (Yaml.Stream.ofText sumText.content).documents.map lacksName = [true] := by
    decide +kernel
  have hkind : (sumUri.file?.map DataFileKind.ofLocation).getD .unknown = .primitive := by
    decide +kernel
  obtain ⟨d, hd, hname⟩ := List.map_eq_singleton_iff.mp hdocuments
  obtain ⟨span, hfindings⟩ := findings_of_lacksName hname
  simp only [Notice.ofText, hkind, check, List.isEmpty_iff.mp hproblems, hd, hfindings,
    List.map_nil, List.nil_append, List.map_cons]
  exact ⟨rfl, _, rfl, rfl⟩

/-- The project of the document is read by `project?` where it is not loaded. -/
private theorem project?_machineWith {source : String}
    (h : Text.decode? (Text.encode source) = some source) {w : Workspace}
    (hnone : w.registry.get? rootPlaces.root = none) :
    (w.project? (machineWith source).files sumUri).1 =
      (Schemata.ofSource source).toOption.map fun s => ⟨rootPlaces, .ofSchemata .tsl s⟩ := by
  have hfile : sumUri.file? = some (.ofText "/primitive_data/primitives/sum.yaml") := by
    decide +kernel
  have hplaces : ProjectPlaces.discover? (machineWith source).files.hasFile
      (.ofText "/primitive_data/primitives/sum.yaml") = some rootPlaces := by rfl
  have hread := toOption_readSchema_machineWith h
  simp only [Workspace.project?, hfile]
  -- the project is loaded already, or it is loaded now, or its schema cannot be read
  obtain ⟨p, hget, -⟩ | ⟨-, ⟨s, hs, hr⟩ | ⟨hs, hr⟩⟩ :=
    Registry.projectFor?_of_discover? hplaces w.registry
  · rw [hnone] at hget
    cases hget
  · rw [hs] at hread
    obtain ⟨schemata, hschemata, rfl⟩ := Option.map_eq_some_iff.mp hread.symm
    rw [hr, hschemata]
    rfl
  · rw [hs] at hread
    rw [hr, Option.map_eq_none_iff.mp hread.symm]
    rfl

/-- The document is opened on a machine: it has its text, and is shown as it is checked there. -/
private theorem after_openSum (host : Host) :
    let w := (start .default none).session.workspace
    let t := after .default none [(host, openSum)]
    t.session.isOver = false ∧ t.session.workspace.texts.get? sumUri = some sumText ∧
      t.session.workspace.registry = (w.project? host.files sumUri).2.registry ∧
      t.shown? sumUri = some
        (.ofText sumUri sumText ((w.project? host.files sumUri).1.map (·.schema.schemata))) := by
  intro w t
  have huri : (Uri.ofText "file:///primitive_data/primitives/sum.yaml").toOption = some sumUri := by
    decide +kernel
  obtain ⟨u, hu, hact⟩ | ⟨hnone, -⟩ :=
    Session.withUri_cases "file:///primitive_data/primitives/sum.yaml"
  · obtain rfl : u = sumUri := Option.some_inj.mp (hu.symm.trans huri)
    have ht : t = ⟨(start .default none).told ++ [(w.publish host.files sumUri sumText).1],
        (w.opened host.files sumUri sumText).2, false⟩ := by
      show (start .default none).next (host, openSum) = _
      rw [next_of_not_isOver rfl]
      simp only [openSum, Session.answer, hact]
      rfl
    have htexts : (w.opened host.files sumUri sumText).2.texts = w.texts.insert sumUri sumText :=
      w.texts_store host.files sumUri sumText
    rw [ht]
    refine ⟨rfl, ?_, rfl, ?_⟩
    · rw [htexts, TextStore.get?_insert, if_pos rfl]
    · rw [shown?_append, Workspace.fst_publish]
      simp [Notice.ofText, Notice.isAbout]
  · rw [huri] at hnone
    cases hnone

/-- When files have changed, loaded projects have the schemata that can be read from them, or else
those that they had. An open document that was shown by the schema of its loaded project, which is
still found, is shown as it is checked now. So is every open document if any schema was read again.
Otherwise what is shown stays, and it is what a check gives now, with two exceptions: the document
was shown by no schema, and now its project can be loaded or has been loaded; or it was shown by the
schema of its loaded project, which is not found any more. -/
theorem shown_after_filesChanged (settings : Settings) (options? : Option Json)
    (events : List (Host × Call)) (host : Host) {uris : List String} {us : List Uri} {u : Uri}
    {d : OpenText} (hover : (after settings options? events).session.isOver = false)
    (hus : (uris.mapM fun v => (Uri.ofText v).toOption) = some us)
    (hopen : (after settings options? events).session.workspace.texts.get? u = some d) :
    let t := after settings options? events
    let t' := after settings options? (events ++ [(host, .filesChanged uris)])
    let w := t.session.workspace
    let w' := t'.session.workspace
    let changes := us.filterMap Uri.file?
    let now := (w'.publish host.files u d).1
    w'.texts.get? u = some d ∧
      (∀ p, w.loaded? u = some p →
        w'.loaded? u = some (p.reloaded host.files changes) ∧
        ((u.places? host.files).isSome →
          now = .ofText u d (some (p.reloaded host.files changes).schema.schemata) ∧
          (t.shown? u = some (.ofText u d (some p.schema.schemata)) → t'.shown? u = some now))) ∧
      ((∃ p ∈ w.registry.projects, (p.newSchema? host.files changes).isSome) →
        t'.shown? u = some now) ∧
      ((∀ p ∈ w.registry.projects, p.newSchema? host.files changes = none) →
        t'.shown? u = t.shown? u ∧
        (t'.shown? u = some now ∨
          t'.shown? u = some (.ofText u d none) ∧ (w'.project? host.files u).1.isSome ∨
          (∃ p, w'.loaded? u = some p ∧
            t'.shown? u = some (.ofText u d (some p.schema.schemata))) ∧
            u.places? host.files = none)) := by
  intro t t' w w' changes now
  have hcurrent : t.Current u := current_after settings options? events u
  have hnext : t' = ⟨t.told ++ (w.filesChanged host.files us).1,
      (w.filesChanged host.files us).2, false⟩ :=
    (after_append settings options? events _).trans (next_filesChanged hover host hus)
  have hw' : w' = (w.filesChanged host.files us).2 := by simp only [w', hnext]
  have hshown : t'.shown? u =
      ((w.filesChanged host.files us).1.filter (·.isAbout u)).getLast?.or (t.shown? u) := by
    rw [hnext, shown?_append]
  have hnow : now = .ofText u d ((w'.project? host.files u).1.map (·.schema.schemata)) :=
    w'.fst_publish host.files u d
  have hread : (∃ p ∈ w.registry.projects, (p.newSchema? host.files changes).isSome) →
      t'.shown? u = some now := by
    intro hnew
    rw [hshown, hcurrent.shown?_of_newSchema? host.files hopen hnew, Option.some_or, ← hw']
  have hkept : (∀ p ∈ w.registry.projects, p.newSchema? host.files changes = none) →
      w' = w ∧ t'.shown? u = t.shown? u := by
    intro hnone
    have hstays := hcurrent.next_filesChanged_of_forall_none hover host hus hnone
    rwa [← after_append] at hstays
  -- the text stays, and the projects are those of `filesChanged`
  refine ⟨?_, fun p hp => ?_, hread, fun hnone => ?_⟩
  · rw [hw', Workspace.texts_filesChanged]
    exact hopen
  · have hloaded : w'.loaded? u = some (p.reloaded host.files changes) :=
      hw' ▸ Workspace.loaded?_filesChanged hcurrent.keyed hp host.files us
    refine ⟨hloaded, fun hplaces => ?_⟩
    rw [Workspace.project?_of_loaded? hloaded hplaces, Option.map_some] at hnow
    refine ⟨hnow, fun hbefore => ?_⟩
    by_cases hnew : ∃ p ∈ w.registry.projects, (p.newSchema? host.files changes).isSome
    · exact hread hnew
    · -- no schema was read, so the project is as it was
      have hnone : ∀ q ∈ w.registry.projects, q.newSchema? host.files changes = none :=
        fun q hq => Option.not_isSome_iff_eq_none.mp fun hq' => hnew ⟨q, hq, hq'⟩
      have hsame := Project.reloaded_of_newSchema?_eq_none host.files changes
        (hnone p (Workspace.mem_projects_of_loaded? hcurrent.keyed hp))
      rw [(hkept hnone).2, hbefore, hnow, hsame]
  · obtain ⟨hsame, hstays⟩ := hkept hnone
    refine ⟨hstays, ?_⟩
    show t'.shown? u = some (w'.publish host.files u d).1 ∨ _
    rw [hstays, hsame]
    exact hcurrent.shown_cases host.files hopen

/-- A schema that breaks is kept, and the document is shown by it. -/
theorem kept_schema_is_shown :
    let events := [(machineWith nameSource, openSum)]
    let broken := machineWith brokenSource
    let t := after .default none events
    let t' := after .default none (events ++ [(broken, .filesChanged [schemaAddress])])
    t.session.isOver = false ∧
      ([schemaAddress].mapM fun v => (Uri.ofText v).toOption) = some [schemaUri] ∧
      t.session.workspace.texts.get? sumUri = some sumText ∧
      t'.shown? sumUri = some (t'.session.workspace.publish broken.files sumUri sumText).1 ∧
      t'.shown? sumUri = some (.ofText sumUri sumText (some nameSchemata)) := by
  intro events broken t t'
  obtain ⟨hover, hopen, hregistry, hshown⟩ := after_openSum (machineWith nameSource)
  have hfound := project?_machineWith decode?_nameSource
    (rfl : (start .default none).session.workspace.registry.get? rootPlaces.root = none)
  rw [ofSource_nameSource] at hfound
  rw [hfound] at hshown
  -- the project is loaded, and its schema cannot be read again
  have hloaded := Workspace.loaded?_of_project? hfound
  rw [Workspace.loaded?, ← hregistry] at hloaded
  have hread := toOption_readSchema_machineWith decode?_brokenSource
  rw [ofSource_brokenSource, Option.map_none] at hread
  have hkeeps (p : Project) (hp : p.places = rootPlaces) (changes : List Path) :
      p.reloaded broken.files changes = p := by
    refine Project.reloaded_of_newSchema?_eq_none _ _ ?_
    rw [Project.newSchema?, hp, hread, ite_self]
  have hplaces : (sumUri.places? broken.files).isSome = true := by decide +kernel
  obtain ⟨-, hproject, -⟩ :=
    shown_after_filesChanged .default none events broken hover mapM_schemaAddress hopen
  obtain ⟨-, hchecked⟩ := hproject _ hloaded
  obtain ⟨hnow, hstays⟩ := hchecked hplaces
  refine ⟨hover, mapM_schemaAddress, hopen, hstays hshown, ?_⟩
  rw [hstays hshown, hnow, hkeeps _ rfl]
  rfl

/-- A schema that is broken at first and repaired later: the document is not shown by it, although
its source is among the files that have changed. -/
theorem repaired_schema_is_not_shown :
    let repaired := machineWith nameSource
    let t := after .default none
      [(machineWith brokenSource, openSum), (repaired, .filesChanged [schemaAddress])]
    t.session.workspace.texts.get? sumUri = some sumText ∧
      t.shown? sumUri = some (.diagnostics sumUri [] (some 1)) ∧
      ∃ item, (t.session.workspace.publish repaired.files sumUri sumText).1 =
          .diagnostics sumUri [item] (some 1) ∧
        item.message = "Missing required field `name`" := by
  intro repaired t
  obtain ⟨hover, hopen, hregistry, hshown⟩ := after_openSum (machineWith brokenSource)
  have hfound := project?_machineWith decode?_brokenSource
    (rfl : (start .default none).session.workspace.registry.get? rootPlaces.root = none)
  rw [ofSource_brokenSource] at hfound
  rw [hfound] at hshown
  -- the load has failed, so there is no project whose schema could be read again
  have hcurrent := current_after .default none [(machineWith brokenSource, openSum)] sumUri
  have hprojects : (after .default none
      [(machineWith brokenSource, openSum)]).session.workspace.registry.projects = [] := by
    rw [hregistry, Workspace.projects_of_project?_eq_none hfound]
    rfl
  obtain ⟨hsame, hstays⟩ := hcurrent.next_filesChanged_of_forall_none hover repaired
    mapM_schemaAddress (by simp [hprojects])
  have hempty : (after .default none
      [(machineWith brokenSource, openSum)]).session.workspace.registry.get? rootPlaces.root =
        none := by
    refine Option.eq_none_iff_forall_ne_some.mpr fun p hp => ?_
    have hmem := (Registry.mem_projects_iff hcurrent.keyed.distinct).mpr ⟨_, hp⟩
    rw [hprojects] at hmem
    cases hmem
  have hnow := project?_machineWith decode?_nameSource hempty
  rw [ofSource_nameSource] at hnow
  have ht : t = (after .default none [(machineWith brokenSource, openSum)]).next
      (repaired, .filesChanged [schemaAddress]) := rfl
  rw [ht, hsame, hstays, hshown, Workspace.fst_publish, hnow]
  exact ⟨hopen, congrArg some ofText_sumText.1, ofText_sumText.2⟩

end Transcript

end PrimitiveDesk
