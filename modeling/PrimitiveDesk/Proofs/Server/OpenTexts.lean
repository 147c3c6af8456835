import PrimitiveDesk.Server.Session

/-!
# The texts that are open

What every event and every request does to the open texts, and what it tells about them. The store
is seen as a function from addresses to texts (`TextStore.get?_insert`, `TextStore.get?_erase`), and
every address has one text in it (`TextStore.Distinct`). Only three calls change the store, and each
changes the text of one address; whatever else a call does, it leaves the texts as they are.
Diagnostics that a call tells are those of the text that is open after the call.

`Session.updates_answer` says all this of `Session.answer`, call by call. Requests at a document
read the text of that document alone (`Session.answer_withTexts`).
-/

namespace PrimitiveDesk

/-! ## The store -/

namespace TextStore

variable {s : TextStore} {uri u : Uri} {t : OpenText}

/-- `put` changes the text of one address. -/
private theorem find?_put (entries : List (Uri × OpenText)) (uri u : Uri) (t : OpenText) :
    ((put uri t entries).find? fun e => e.1 = u).map (·.2) =
      if u = uri then some t else (entries.find? fun e => e.1 = u).map (·.2) := by
  induction entries with
  | nil =>
    rw [put]
    by_cases hu : u = uri
    · simp [hu]
    · simp [hu, Ne.symm hu]
  | cons e rest ih =>
    rw [put]
    by_cases he : e.1 = uri
    · -- the text is put in the place of the one that the document has
      rw [if_pos he]
      by_cases hu : u = uri
      · simp [hu]
      · simp [hu, he, Ne.symm hu]
    · rw [if_neg he]
      by_cases heu : e.1 = u
      · have hu : u ≠ uri := fun h => he (heu.trans h)
        simp [heu, hu]
      · rw [List.find?_cons_of_neg (by simpa using heu), ih,
          List.find?_cons_of_neg (by simpa using heu)]

/-- A text that is set by `insert` is found, and no other is touched. -/
theorem get?_insert (s : TextStore) (uri u : Uri) (t : OpenText) :
    (s.insert uri t).get? u = if u = uri then some t else s.get? u :=
  find?_put s.entries uri u t

/-- A document that is removed by `erase` is not found, and no other is touched. -/
theorem get?_erase (s : TextStore) (uri u : Uri) :
    (s.erase uri).get? u = if u = uri then none else s.get? u := by
  unfold get? erase
  rw [List.find?_filter]
  by_cases hu : u = uri
  · subst hu
    rw [if_pos rfl, Option.map_eq_none_iff, List.find?_eq_none]
    simp
  · rw [if_neg hu]
    congr 2
    funext e
    by_cases he : e.1 = u
    · simp [he, hu]
    · simp [he]

/-- Every address has at most one text. -/
def Distinct (s : TextStore) : Prop := (s.entries.map Prod.fst).Nodup

/-- `put` adds one address. -/
private theorem mem_map_fst_put {entries : List (Uri × OpenText)} :
    u ∈ (put uri t entries).map Prod.fst ↔ u = uri ∨ u ∈ entries.map Prod.fst := by
  induction entries with
  | nil => simp [put]
  | cons e rest ih =>
    rw [put]
    split
    · next he => simp [he]
    · rw [List.map_cons, List.mem_cons, ih, List.map_cons, List.mem_cons]
      exact or_left_comm

/-- `put` gives no address a second text. -/
private theorem nodup_put {entries : List (Uri × OpenText)} (h : (entries.map Prod.fst).Nodup) :
    ((put uri t entries).map Prod.fst).Nodup := by
  induction entries with
  | nil => simp [put]
  | cons e rest ih =>
    rw [List.map_cons, List.nodup_cons] at h
    rw [put]
    -- the entry is replaced, or the address is looked for in the rest
    split
    · next he => exact List.nodup_cons.mpr ⟨he ▸ h.1, h.2⟩
    · next he =>
      rw [List.map_cons, List.nodup_cons, mem_map_fst_put, not_or]
      exact ⟨⟨he, h.1⟩, ih h.2⟩

private theorem Distinct.insert (h : s.Distinct) (uri : Uri) (t : OpenText) :
    (s.insert uri t).Distinct :=
  nodup_put h

private theorem Distinct.erase (h : s.Distinct) (uri : Uri) : (s.erase uri).Distinct :=
  h.sublist (List.filter_sublist.map Prod.fst)

/-- Every text in the store is the one that is found for its address. -/
theorem Distinct.get?_eq_some (h : s.Distinct) (hmem : (u, t) ∈ s.entries) : s.get? u = some t := by
  obtain ⟨entries⟩ := s
  unfold Distinct at h
  unfold get?
  induction entries with
  | nil => cases hmem
  | cons e rest ih =>
    rw [List.map_cons, List.nodup_cons] at h
    obtain rfl | hrest := List.mem_cons.mp hmem
    · simp
    · have hne : e.1 ≠ u := fun he => h.1 (he ▸ List.mem_map_of_mem hrest)
      rw [List.find?_cons_of_neg (by simpa using hne)]
      exact ih h.2 hrest

end TextStore

/-! ## Workspaces -/

namespace Workspace

variable (w : Workspace) (files : FileTree) (uri : Uri)

/-- The workspace with other texts open. -/
def withTexts (texts : TextStore) : Workspace := { w with texts }

/-- Looking up a project loads it, and neither reads nor changes the texts. -/
private theorem project?_withTexts (texts : TextStore) :
    (w.withTexts texts).project? files uri =
      ((w.project? files uri).1, (w.project? files uri).2.withTexts texts) := by
  unfold project?
  cases uri.file? <;> rfl

@[simp] theorem texts_project? : (w.project? files uri).2.texts = w.texts := by
  unfold project?
  cases uri.file? <;> rfl

@[simp] theorem texts_publish (t : OpenText) : (w.publish files uri t).2.texts = w.texts :=
  w.texts_project? files uri

@[simp] theorem texts_store (t : OpenText) :
    (w.store files uri t).2.texts = w.texts.insert uri t := by
  show (w.publish files uri t).2.texts.insert uri t = _
  rw [texts_publish]

@[simp] theorem texts_publishAll (entries : List (Uri × OpenText)) :
    (w.publishAll files entries).2.texts = w.texts := by
  induction entries generalizing w with
  | nil => rfl
  | cons e rest ih =>
    show ((w.publish files e.1 e.2).2.publishAll files rest).2.texts = _
    rw [ih, texts_publish]

@[simp] theorem texts_reloadAll (changes : List Path) (projects : List Project) :
    (w.reloadAll files changes projects).2.2.texts = w.texts := by
  induction projects generalizing w with
  | nil => rfl
  | cons p rest ih =>
    unfold reloadAll
    split
    · split
      · exact ih _
      · exact ih w
    · exact ih w

theorem texts_filesChanged (uris : List Uri) : (w.filesChanged files uris).2.texts = w.texts := by
  unfold filesChanged
  simp only
  split
  · rw [texts_publishAll, texts_reloadAll]
  · rw [texts_reloadAll]

/-! ### Requests -/

section Requests

variable {w : Workspace} {uri : Uri} {texts : TextStore}
  (h : (texts.get? uri).map (·.content) = w.content? uri) (position : Position)

include h

/-- The text of the document is the same with the other texts, also after a project is loaded. -/
private theorem content?_withTexts (files : FileTree) :
    (w.withTexts texts).content? uri = w.content? uri ∧
      ((w.project? files uri).2.withTexts texts).content? uri =
        (w.project? files uri).2.content? uri := by
  refine ⟨h, ?_⟩
  rw [content?, content?, texts_project?]
  exact h

/-- `complete?` reads the text of the document alone. -/
private theorem complete?_withTexts (files : FileTree) :
    (w.withTexts texts).complete? files uri position =
      ((w.complete? files uri position).1,
        (w.complete? files uri position).2.withTexts texts) := by
  unfold complete?
  rw [(content?_withTexts h files).1, project?_withTexts]
  cases w.content? uri with
  | none => rfl
  | some content =>
    obtain ⟨project?, w'⟩ := w.project? files uri
    cases project? <;> rfl

/-- `symbols?` reads the text of the document alone. -/
private theorem symbols?_withTexts : (w.withTexts texts).symbols? uri = w.symbols? uri := by
  unfold symbols?
  rw [(content?_withTexts h .empty).1]

/-- `preview` reads the text of the document alone. -/
private theorem preview_withTexts (files : FileTree) :
    (w.withTexts texts).preview files uri position =
      ((w.preview files uri position).1,
        (w.preview files uri position).2.withTexts texts) := by
  unfold preview
  rw [project?_withTexts]
  -- the text is read after the project is loaded
  have hcontent := (content?_withTexts h files).2
  cases hp : w.project? files uri with
  | mk project? w' =>
    simp only [hp] at hcontent ⊢
    cases project? with
    | none => rfl
    | some project =>
      simp only [hcontent]
      cases w'.content? uri with
      | none => rfl
      | some content =>
        simp only
        split <;> rfl

omit h in
/-- A build in a project does not read the texts. -/
private theorem buildProject_withTexts (w : Workspace) (texts : TextStore) (host : Host)
    (places : ProjectPlaces) (target : BuildTarget) :
    (w.withTexts texts).buildProject host places target =
      ((w.buildProject host places target).1,
        (w.buildProject host places target).2.1.withTexts texts,
        (w.buildProject host places target).2.2) := by
  have hstart : (w.withTexts texts).startDaemon host places = w.startDaemon host places := rfl
  unfold buildProject
  rw [hstart]
  obtain ⟨started, files⟩ := w.startDaemon host places
  cases started with
  | error e => rfl
  | ok d =>
    simp only
    obtain ⟨outcome, d', files'⟩ := d.generate files ⟨host.cpuFlags, [target.primitive]⟩
    -- the steps of the build run in a folder that only the settings tell
    have hfolder : ((w.withTexts texts).keepDaemon places.root d').buildFolder places =
        (w.keepDaemon places.root d').buildFolder places := rfl
    cases outcome with
    | error e => rfl
    | ok outcome =>
      cases outcome with
      | alreadyActive => rfl
      | generated =>
        simp only [hfolder]
        split <;> rfl

/-- `tryBuild` reads the text of the document alone. -/
private theorem tryBuild_withTexts (host : Host) :
    (w.withTexts texts).tryBuild host uri position =
      ((w.tryBuild host uri position).1,
        (w.tryBuild host uri position).2.1.withTexts texts,
        (w.tryBuild host uri position).2.2) := by
  -- the only text that is read is that of the document, once its project has been looked up
  have hcontent := (content?_withTexts h host.files).2
  have hsettings : (w.withTexts texts).settings = w.settings := rfl
  unfold tryBuild
  rw [project?_withTexts, hsettings]
  split
  · rfl
  · cases hp : w.project? host.files uri with
    | mk project? w' =>
      simp only [hp] at hcontent ⊢
      cases project? with
      | none => rfl
      | some project =>
        simp only [hcontent]
        cases w'.content? uri with
        | none => rfl
        | some content =>
          simp only
          split
          · rfl
          · rw [buildProject_withTexts]

/-- `build` reads the text of the document alone. -/
private theorem build_withTexts (host : Host) :
    (w.withTexts texts).build host uri position =
      ((w.build host uri position).1,
        (w.build host uri position).2.1.withTexts texts,
        (w.build host uri position).2.2) := by
  unfold build
  rw [tryBuild_withTexts h]

end Requests

section

variable (w : Workspace) (files : FileTree) (host : Host) (uri : Uri) (position : Position)

@[simp] theorem texts_complete? : (w.complete? files uri position).2.texts = w.texts :=
  congrArg (·.2.texts) (complete?_withTexts (w := w) rfl position files)

@[simp] theorem texts_preview : (w.preview files uri position).2.texts = w.texts :=
  congrArg (·.2.texts) (preview_withTexts (w := w) rfl position files)

@[simp] theorem texts_build : (w.build host uri position).2.1.texts = w.texts :=
  congrArg (·.2.1.texts) (build_withTexts (w := w) rfl position host)

end

end Workspace

/-! ## Notices -/

namespace Notice

/-- Whether a notice replaces the diagnostics of a document. -/
def isAbout (u : Uri) : Notice → Bool
  | diagnostics uri _ _ => uri = u
  | _ => false

/-- The diagnostics of a text by the schemata of its project. -/
def ofText (uri : Uri) (t : OpenText) (schemata? : Option Schemata) : Notice :=
  let kind := (uri.file?.map DataFileKind.ofLocation).getD .unknown
  let found := check (Yaml.Stream.ofText t.content) kind schemata?
  .diagnostics uri (found.map (Finding.diagnostic (LineIndex.ofText t.content))) (some t.version)

/-- The notice has the diagnostics of the text that is open, or none if nothing is open. -/
def Shows (u : Uri) (n : Notice) : Option OpenText → Prop
  | some t => ∃ schemata?, n = ofText u t schemata?
  | none => n = .diagnostics u [] none

end Notice

namespace Workspace

variable (w : Workspace) (files : FileTree) (host : Host) (uri u : Uri) (position : Position)

/-- `publish` tells the diagnostics of the text that it is given. -/
theorem fst_publish (t : OpenText) :
    (w.publish files uri t).1 =
      .ofText uri t ((w.project? files uri).1.map (·.schema.schemata)) := rfl

/-- `publishAll` tells the diagnostics of the texts that it is given. -/
private theorem exists_of_mem_publishAll {entries : List (Uri × OpenText)} {n : Notice}
    (h : n ∈ (w.publishAll files entries).1) :
    ∃ e ∈ entries, ∃ schemata?, n = .ofText e.1 e.2 schemata? := by
  induction entries generalizing w with
  | nil => cases h
  | cons e rest ih =>
    obtain hn | hrest := List.mem_cons.mp h
    · exact ⟨e, List.mem_cons_self, _, hn⟩
    · obtain ⟨e', he', shown⟩ := ih _ hrest
      exact ⟨e', List.mem_cons_of_mem e he', shown⟩

/-- `reloadAll` tells nothing about documents. -/
theorem not_isAbout_of_mem_reloadAll {changes : List Path} {projects : List Project} {n : Notice}
    (h : n ∈ (w.reloadAll files changes projects).2.1) : n.isAbout u = false := by
  induction projects generalizing w with
  | nil => cases h
  | cons p rest ih =>
    unfold reloadAll at h
    split at h
    · split at h
      · exact ih _ h
      · obtain rfl | hrest := List.mem_cons.mp h
        · rfl
        · exact ih _ hrest
    · exact ih _ h

/-- `preview` tells nothing about documents. -/
theorem not_isAbout_of_mem_preview {n : Notice} (h : n ∈ (w.preview files uri position).1.2) :
    n.isAbout u = false := by
  -- a failure is displayed, and so is what the preview has to say
  have hreported : ∀ {message}, n ∈ (reported message).2 → n.isAbout u = false := by
    intro message hn
    obtain rfl := List.mem_singleton.mp hn
    rfl
  unfold preview at h
  split at h
  · exact hreported h
  · split at h
    · cases h
    · simp only at h
      split at h
      · obtain ⟨message, -, rfl⟩ := List.mem_map.mp h
        rfl
      · exact hreported h

/-- `build` tells nothing about documents. -/
theorem not_isAbout_of_mem_build {n : Notice} (h : n ∈ (w.build host uri position).1.2) :
    n.isAbout u = false := by
  unfold build at h
  simp only at h
  -- however the build ends, one message is displayed
  split at h
  all_goals
    obtain rfl := List.mem_singleton.mp h
    rfl

/-! ## What happens to one text -/

/-- Between two states the text of a document is written, or stays where nothing is to be written,
and the notices in between keep up with it: they show no other text of the document, and where it is
written they do show it. -/
structure Updates (u : Uri) (write? : Option (Option OpenText)) (w : Workspace)
    (notices : List Notice) (w' : Workspace) : Prop where
  get? : w'.texts.get? u = write?.getD (w.texts.get? u)
  distinct : w.texts.Distinct → w'.texts.Distinct
  shown : w.texts.Distinct → ∀ n ∈ notices, n.isAbout u → n.Shows u (w'.texts.get? u)
  told : write?.isSome → ∃ n ∈ notices, n.isAbout u

variable {w}

/-- What leaves the texts as they are and tells no diagnostics updates nothing. -/
private theorem Updates.of_texts_eq {w' : Workspace} {notices : List Notice} (u : Uri)
    (htexts : w'.texts = w.texts) (hnotices : ∀ n ∈ notices, n.isAbout u = false) :
    Updates u none w notices w' where
  get? := by rw [htexts]; rfl
  distinct h := htexts ▸ h
  shown _ n hn habout := absurd habout (by simp [hnotices n hn])
  told h := by cases h

/-- The notice that counts for a document shows the text that is open in the end. -/
theorem Updates.shows_of_getLast? {u : Uri} {write? : Option (Option OpenText)}
    {w' : Workspace} {notices : List Notice} (h : Updates u write? w notices w')
    (hw : w.texts.Distinct) {n : Notice}
    (hn : (notices.filter (·.isAbout u)).getLast? = some n) : n.Shows u (w'.texts.get? u) := by
  obtain ⟨hmem, habout⟩ := List.mem_filter.mp (List.mem_of_getLast? hn)
  exact h.shown hw n hmem habout

/-- Where no notice counts for a document, its text is not written. -/
theorem Updates.eq_none_of_getLast? {u : Uri} {write? : Option (Option OpenText)}
    {w' : Workspace} {notices : List Notice} (h : Updates u write? w notices w')
    (hnone : (notices.filter (·.isAbout u)).getLast? = none) : write? = none := by
  refine Option.not_isSome_iff_eq_none.mp fun hsome => ?_
  obtain ⟨n, hn, habout⟩ := h.told hsome
  have hmem := List.mem_filter.mpr ⟨hn, habout⟩
  rw [List.getLast?_eq_none_iff.mp hnone] at hmem
  cases hmem

variable (w)

/-- A document that is opened gets its text, and the text is checked. -/
private theorem updates_opened (t : OpenText) :
    Updates u (if uri = u then some (some t) else none) w
      (w.opened files uri t).1 (w.opened files uri t).2 := by
  have hnotices : (w.opened files uri t).1 = [(w.publish files uri t).1] := rfl
  have htexts : (w.opened files uri t).2.texts = w.texts.insert uri t := w.texts_store files uri t
  have habout : (w.publish files uri t).1.isAbout u = decide (uri = u) := rfl
  rw [hnotices]
  -- the notice is about the document that is opened, and so is the text
  by_cases hu : uri = u
  · subst hu
    rw [if_pos rfl]
    have hget : (w.opened files uri t).2.texts.get? uri = some t := by
      rw [htexts, TextStore.get?_insert, if_pos rfl]
    refine ⟨hget, fun h => htexts ▸ h.insert uri t, ?_, ?_⟩
    · intro _ n hn _
      rw [List.mem_singleton.mp hn, hget]
      exact ⟨_, w.fst_publish files uri t⟩
    · exact fun _ => ⟨_, List.mem_singleton_self _, by simp [habout]⟩
  · rw [if_neg hu]
    refine ⟨?_, fun h => htexts ▸ h.insert uri t, ?_, fun h => by cases h⟩
    · rw [htexts, TextStore.get?_insert, if_neg (Ne.symm hu)]
      rfl
    · intro _ n hn hn'
      rw [List.mem_singleton.mp hn, habout] at hn'
      exact absurd (of_decide_eq_true hn') hu

/-- A document that is closed loses its text and its diagnostics. -/
private theorem updates_closed :
    Updates u (if uri = u then some none else none) w (w.closed uri).1 (w.closed uri).2 := by
  have htexts : (w.closed uri).2.texts = w.texts.erase uri := rfl
  -- the only notice is about the document that is closed
  by_cases hu : uri = u
  · subst hu
    rw [if_pos rfl]
    have hget : (w.closed uri).2.texts.get? uri = none := by
      rw [htexts, TextStore.get?_erase, if_pos rfl]
    refine ⟨hget, fun h => h.erase uri, ?_, ?_⟩
    · intro _ n hn _
      rw [hget]
      exact List.mem_singleton.mp hn
    · exact fun _ => ⟨_, List.mem_singleton_self _, by simp [Notice.isAbout]⟩
  · rw [if_neg hu]
    refine ⟨?_, fun h => h.erase uri, ?_, fun h => by cases h⟩
    · rw [htexts, TextStore.get?_erase, if_neg (Ne.symm hu)]
      rfl
    · intro _ n hn hn'
      rw [List.mem_singleton.mp hn] at hn'
      exact absurd (of_decide_eq_true hn') hu

/-- When schemata have changed, the texts that are open are checked again, each under its own
address. -/
private theorem updates_filesChanged (uris : List Uri) :
    Updates u none w (w.filesChanged files uris).1 (w.filesChanged files uris).2 where
  get? := by rw [texts_filesChanged]; rfl
  distinct h := by rwa [texts_filesChanged]
  told h := by cases h
  shown h n hn habout := by
    rw [texts_filesChanged]
    unfold filesChanged at hn
    simp only [texts_reloadAll] at hn
    have hreload : ∀ {changes projects}, n ∈ (w.reloadAll files changes projects).2.1 → False :=
      fun hn => absurd habout (by simp [w.not_isAbout_of_mem_reloadAll files u hn])
    split at hn
    · obtain hn | hn := List.mem_append.mp hn
      · exact (hreload hn).elim
      · -- the store has one text for each address, so the entry that is checked is the open text
        obtain ⟨e, he, schemata?, rfl⟩ := exists_of_mem_publishAll _ files hn
        obtain rfl : e.1 = u := of_decide_eq_true habout
        rw [h.get?_eq_some he]
        exact ⟨schemata?, rfl⟩
    · exact (hreload hn).elim

end Workspace

/-! ## Calls -/

namespace Call

/-- The document whose text a call is about. -/
def document? : Call → Option Uri
  | opened uri _ _ => (Uri.ofText uri).toOption
  | changed uri _ _ => (Uri.ofText uri).toOption
  | closed uri => (Uri.ofText uri).toOption
  | _ => none

/-- What a call writes in the place of a document's text: a text, or that there is none. -/
def write? (u : Uri) (call : Call) : Option (Option OpenText) :=
  if call.document? = some u then
    match call with
    | opened _ text version => some (some ⟨text, version⟩)
    | changed _ (text :: _) version => some (some ⟨text, version⟩)
    | closed _ => some none
    | _ => none
  else none

/-- A request for something at a document. -/
def Asks (u : Uri) : Call → Prop
  | complete uri _ => (Uri.ofText uri).toOption = some u
  | symbols uri => (Uri.ofText uri).toOption = some u
  | command name arguments =>
    (name = "tslgen.preview" ∨ name = "tslgen.build") ∧
      ∃ position, decodeLocation arguments = .ok (u, position)
  | _ => False

end Call

namespace Session

open Workspace

/-- Either an address can be read, and the call goes on with it, or it is refused. -/
theorem withUri_cases (uri : String) :
    (∃ u, (Uri.ofText uri).toOption = some u ∧
        ∀ {α : Type} (refuse : ArgumentError → α) (act : Uri → α),
          withUri uri refuse act = act u) ∨
      (Uri.ofText uri).toOption = none ∧
        ∃ e, ∀ {α : Type} (refuse : ArgumentError → α) (act : Uri → α),
          withUri uri refuse act = refuse e := by
  cases h : Uri.ofText uri with
  | ok u => exact .inl ⟨u, rfl, fun _ _ => by simp only [withUri, Uri.decode, h]⟩
  | error e =>
    refine .inr ⟨rfl, .notDecoded (.malformed e.message uri), fun _ _ => ?_⟩
    simp only [withUri, Uri.decode, h]

/-- What a call does to the text of a document, and what it tells about it. There is one case for
each call; an address that cannot be read is refused before anything is done. -/
theorem updates_answer (w : Workspace) (host : Host) (call : Call) (u : Uri) :
    Updates u (call.write? u) w (answer w host call).2.1 (answer w host call).2.2.1 := by
  -- the calls that tell nothing and change no text
  have hquiet : ∀ {w' : Workspace}, w'.texts = w.texts → Updates u none w [] w' :=
    fun htexts => .of_texts_eq u htexts (by simp)
  cases call with
  | opened uri text version =>
    obtain ⟨v, hv, hact⟩ | ⟨hnone, e, hrefuse⟩ := withUri_cases uri
    · simp only [answer, hact, Call.write?, Call.document?, hv, Option.some_inj]
      exact w.updates_opened host.files v u ⟨text, version⟩
    · simp only [answer, hrefuse, Call.write?, Call.document?, hnone]
      exact hquiet rfl
  | changed uri texts version =>
    obtain ⟨v, hv, hact⟩ | ⟨hnone, e, hrefuse⟩ := withUri_cases uri
    · simp only [answer, hact, Call.write?, Call.document?, hv, Option.some_inj]
      -- a change without a text changes nothing
      cases texts with
      | nil =>
        rw [ite_self]
        exact hquiet rfl
      | cons text rest => exact w.updates_opened host.files v u ⟨text, version⟩
    · simp only [answer, hrefuse, Call.write?, Call.document?, hnone]
      exact hquiet rfl
  | closed uri =>
    obtain ⟨v, hv, hact⟩ | ⟨hnone, e, hrefuse⟩ := withUri_cases uri
    · simp only [answer, hact, Call.write?, Call.document?, hv, Option.some_inj]
      exact w.updates_closed v u
    · simp only [answer, hrefuse, Call.write?, Call.document?, hnone]
      exact hquiet rfl
  | filesChanged uris =>
    simp only [answer]
    split
    · exact hquiet rfl
    · exact w.updates_filesChanged host.files u _
  | complete uri position =>
    obtain ⟨v, hv, hact⟩ | ⟨hnone, e, hrefuse⟩ := withUri_cases uri
    · simp only [answer, hact]
      exact hquiet (w.texts_complete? host.files v position)
    · simp only [answer, hrefuse]
      exact hquiet rfl
  | symbols uri =>
    obtain ⟨v, hv, hact⟩ | ⟨hnone, e, hrefuse⟩ := withUri_cases uri
    · simp only [answer, hact]
      exact hquiet rfl
    · simp only [answer, hrefuse]
      exact hquiet rfl
  | command name arguments =>
    -- a preview, a build, the list of both, and a command that is not known
    simp only [answer, command]
    split
    · split
      · exact hquiet rfl
      · exact .of_texts_eq u (w.texts_preview ..) fun n => w.not_isAbout_of_mem_preview _ _ u _
    · split
      · exact hquiet rfl
      · exact .of_texts_eq u (w.texts_build ..) fun n => w.not_isAbout_of_mem_build _ _ u _
    · exact hquiet rfl
    · exact hquiet rfl
  | shutdown => exact hquiet rfl

/-- A request for something at a document reads the text of that document alone: whatever else is
open, it is answered the same. -/
theorem answer_withTexts {w : Workspace} {u : Uri} {texts : TextStore}
    (h : (texts.get? u).map (·.content) = w.content? u) (host : Host) {call : Call}
    (hasks : call.Asks u) :
    (answer (w.withTexts texts) host call).1 = (answer w host call).1 ∧
      (answer (w.withTexts texts) host call).2.1 = (answer w host call).2.1 := by
  cases call with
  | complete uri position =>
    obtain ⟨v, hv, hact⟩ | ⟨hnone, e, hrefuse⟩ := withUri_cases uri
    · obtain rfl : v = u := Option.some_inj.mp (hv.symm.trans hasks)
      simp only [answer, hact, complete?_withTexts h, and_self]
    · exact absurd (hnone.symm.trans hasks) (by simp)
  | symbols uri =>
    obtain ⟨v, hv, hact⟩ | ⟨hnone, e, hrefuse⟩ := withUri_cases uri
    · obtain rfl : v = u := Option.some_inj.mp (hv.symm.trans hasks)
      simp only [answer, hact, symbols?_withTexts h, and_self]
    · exact absurd (hnone.symm.trans hasks) (by simp)
  | command name arguments =>
    obtain ⟨rfl | rfl, position, hlocation⟩ := hasks
    · simp only [answer, command, hlocation, preview_withTexts h, and_self]
    · simp only [answer, command, hlocation, build_withTexts h, and_self]
  -- no other call asks for anything at a document
  | opened | changed | closed | filesChanged | shutdown => exact hasks.elim

end Session

end PrimitiveDesk
