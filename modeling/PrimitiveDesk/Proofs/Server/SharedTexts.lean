import PrimitiveDesk.Proofs.Run
import PrimitiveDesk.Proofs.Server.OpenTexts

/-!
# Handlers that share the texts

The server may receive a text while it is still busy with others. The handler of a text looks up the
project of the document, tells the diagnostics to the client, and only then stores the text; it may
be held up in front of each of these steps, and the others go on meanwhile. It does not look at the
version of the text that it replaces. So the newest text is sure to stay only if it is the only one
(`SharedTexts.last_to_finish_stays`).

A handler that is not held up does what `Workspace.changed` does
(`SharedTexts.exists_uninterrupted`). That the text of a document is the last one that was stored is
an invariant of every run (`SharedTexts.sound_of_run?`).
-/

namespace PrimitiveDesk

/-- New texts of a document, as a client sends them when it opens or changes the document. -/
structure Delivery where
  uri : Uri
  texts : List String
  version : Int
deriving DecidableEq, Repr, Inhabited

/-- The text that is taken, if there is one. -/
def Delivery.text? (d : Delivery) : Option OpenText :=
  d.texts.head?.map fun content => ⟨content, d.version⟩

/-- The text that is taken for a document. -/
def Delivery.textFor? (u : Uri) (d : Delivery) : Option OpenText :=
  if d.uri = u then d.text? else none

/-- The texts that are taken for a document, in order. -/
def textsFor (u : Uri) (ds : List Delivery) : List OpenText :=
  ds.filterMap (·.textFor? u)

/-- How far a handler has got. -/
inductive HandlerStage where
  | received
  /-- It knows the project of the document. -/
  | looked (project? : Option Project)
  /-- It has told the diagnostics. -/
  | told
  | finished

/-- Whether nothing is left to do. -/
def HandlerStage.isFinished : HandlerStage → Bool
  | finished => true
  | _ => false

/-- The workspace with the handlers that use it, and the files. -/
structure SharedTexts where
  workspace : Workspace
  files : FileTree
  told : List Notice
  /-- What was received, in order, with how far its handler has got. -/
  handlers : List (Delivery × HandlerStage)
  /-- What was handled, in the order in which the handlers have finished. -/
  finished : List Delivery

/-- What can happen next. -/
inductive TextMove where
  | receive (d : Delivery)
  /-- The handler with this number goes on. -/
  | advance (i : Nat)
  /-- Whatever else happens to projects and files. -/
  | outside (registry : Registry) (files : FileTree)

namespace SharedTexts

/-- Nothing has been received yet. -/
def start (w : Workspace) (files : FileTree) : SharedTexts := ⟨w, files, [], [], []⟩

/-- What a handler does next, if it is not done. -/
def next? (x : SharedTexts) (d : Delivery) : HandlerStage → Option (SharedTexts × HandlerStage)
  | .received =>
    match d.text? with
    | none => some ({ x with finished := x.finished ++ [d] }, .finished)
    | some _ =>
      let (project?, workspace) := x.workspace.project? x.files d.uri
      some ({ x with workspace }, .looked project?)
  | .looked project? =>
    d.text?.map fun t =>
      ({ x with told := x.told ++ [.ofText d.uri t (project?.map (·.schema.schemata))] }, .told)
  | .told =>
    d.text?.map fun t =>
      ({ x with
        workspace := x.workspace.withTexts (x.workspace.texts.insert d.uri t)
        finished := x.finished ++ [d] }, .finished)
  | .finished => none

/-- The state after a move. -/
def step? (x : SharedTexts) : TextMove → Option SharedTexts
  | .receive d => some { x with handlers := x.handlers ++ [(d, .received)] }
  | .advance i =>
    match x.handlers[i]? with
    | none => none
    | some (d, stage) =>
      (x.next? d stage).map fun (x, stage) => { x with handlers := x.handlers.set i (d, stage) }
  | .outside registry files =>
    some { x with workspace := { x.workspace with registry }, files }

/-- What may be the case when all handlers of what was received have finished. -/
def Ends (w : Workspace) (files : FileTree) (ds : List Delivery) (x : SharedTexts) : Prop :=
  (∃ moves, run? step? (start w files) moves = some x) ∧
    x.handlers = ds.map fun d => (d, .finished)

/-! ## What a handler does in one step -/

/-- The steps of a handler, each with what makes it possible. -/
inductive HandlerStep (x : SharedTexts) (d : Delivery) :
    HandlerStage → SharedTexts → HandlerStage → Prop
  | skip (hnone : d.text? = none) :
    HandlerStep x d .received { x with finished := x.finished ++ [d] } .finished
  | lookUp {t : OpenText} (ht : d.text? = some t) :
    HandlerStep x d .received
      { x with workspace := (x.workspace.project? x.files d.uri).2 }
      (.looked (x.workspace.project? x.files d.uri).1)
  | tell {t : OpenText} (ht : d.text? = some t) (project? : Option Project) :
    HandlerStep x d (.looked project?)
      { x with told := x.told ++ [.ofText d.uri t (project?.map (·.schema.schemata))] } .told
  | store {t : OpenText} (ht : d.text? = some t) :
    HandlerStep x d .told
      { x with
        workspace := x.workspace.withTexts (x.workspace.texts.insert d.uri t)
        finished := x.finished ++ [d] } .finished

variable {x x' : SharedTexts} {w : Workspace} {files : FileTree} {u : Uri} {d : Delivery}
  {stage stage' : HandlerStage} {i : Nat} {ds order : List Delivery} {moves : List TextMove}

/-- `next?` makes one of the steps. -/
private theorem handlerStep_of_next? (h : x.next? d stage = some (x', stage')) :
    HandlerStep x d stage x' stage' := by
  unfold next? at h
  split at h
  · split at h
    · next hnone =>
      cases h
      exact .skip hnone
    · next ht =>
      cases h
      exact .lookUp ht
  · obtain ⟨t, ht, hx⟩ := Option.map_eq_some_iff.mp h
    cases hx
    exact .tell ht _
  · obtain ⟨t, ht, hx⟩ := Option.map_eq_some_iff.mp h
    cases hx
    exact .store ht
  · cases h

private theorem HandlerStep.handlers_eq (h : HandlerStep x d stage x' stage') :
    x'.handlers = x.handlers := by
  cases h <;> rfl

/-- `step?` lets one handler make a step and notes how far it has got. -/
private theorem step?_advance (h : x.step? (.advance i) = some x') :
    ∃ d stage y stage', x.handlers[i]? = some (d, stage) ∧ HandlerStep x d stage y stage' ∧
      x' = { y with handlers := x.handlers.set i (d, stage') } := by
  simp only [step?] at h
  split at h
  · cases h
  · next d stage hhandler =>
    obtain ⟨⟨y, stage'⟩, hnext, rfl⟩ := Option.map_eq_some_iff.mp h
    have hstep := handlerStep_of_next? hnext
    exact ⟨d, stage, y, stage', hhandler, hstep, by rw [hstep.handlers_eq]⟩

/-- A handler stands between others, and noting its stage leaves those as they are. -/
private theorem exists_split (h : x.handlers[i]? = some (d, stage)) :
    ∃ l r, x.handlers = l ++ (d, stage) :: r ∧
      ∀ stage', x.handlers.set i (d, stage') = l ++ (d, stage') :: r := by
  obtain ⟨l, r, hsplit, hset⟩ := exists_split_of_getElem? h
  exact ⟨l, r, hsplit, fun stage' => hset _⟩

/-! ## Every run -/

/-- What was received and is handled or, at `false`, is not handled yet. -/
def deliveries (handled : Bool) (handlers : List (Delivery × HandlerStage)) : List Delivery :=
  (handlers.filter (·.2.isFinished = handled)).map Prod.fst

/-- `deliveries` looks at each handler alone. -/
private theorem deliveries_append_cons (handled : Bool) (l r : List (Delivery × HandlerStage))
    (d : Delivery) (stage : HandlerStage) :
    deliveries handled (l ++ (d, stage) :: r) =
      deliveries handled l ++ ((if stage.isFinished = handled then [d] else []) ++
        deliveries handled r) := by
  by_cases h : stage.isFinished = handled <;> simp [deliveries, h]

private theorem textsFor_concat (u : Uri) (ds : List Delivery) (d : Delivery) :
    textsFor u (ds ++ [d]) = textsFor u ds ++ (d.textFor? u).toList := by
  unfold textsFor
  rw [List.filterMap_append]
  cases h : d.textFor? u <;> simp [h]

/-- The text of every document is the last one that was taken for it, or that from before; and the
handlers that have finished are noted once each. -/
structure Sound (w : Workspace) (x : SharedTexts) : Prop where
  get? : ∀ u, x.workspace.texts.get? u = (textsFor u x.finished).getLast?.or (w.texts.get? u)
  finished : x.finished.Perm (deliveries true x.handlers)

/-- What a handler changes in one step: it stores its text exactly when it finishes. -/
private theorem HandlerStep.effect (h : HandlerStep x d stage x' stage') :
    stage.isFinished = false ∧
      (stage'.isFinished = false ∧ x'.finished = x.finished ∧
          x'.workspace.texts = x.workspace.texts ∨
        stage' = .finished ∧ x'.finished = x.finished ++ [d] ∧
          ∀ u, x'.workspace.texts.get? u = (d.textFor? u).or (x.workspace.texts.get? u)) := by
  cases h with
  | skip hnone =>
    refine ⟨rfl, .inr ⟨rfl, rfl, fun u => ?_⟩⟩
    simp [Delivery.textFor?, hnone]
  | lookUp ht => exact ⟨rfl, .inl ⟨rfl, rfl, Workspace.texts_project? ..⟩⟩
  | tell ht project? => exact ⟨rfl, .inl ⟨rfl, rfl, rfl⟩⟩
  -- only storing changes the texts, and those of other documents stay
  | store ht =>
    refine ⟨rfl, .inr ⟨rfl, rfl, fun u => ?_⟩⟩
    refine (TextStore.get?_insert ..).trans ?_
    rw [Delivery.textFor?, ht]
    by_cases hu : d.uri = u
    · simp [hu]
    · simp [hu, Ne.symm hu]

/-- `Sound` holds after a step of a handler. -/
private theorem Sound.advance (hx : Sound w x) (h : x.step? (.advance i) = some x') :
    Sound w x' := by
  obtain ⟨d, stage, y, stage', hhandler, hstep, rfl⟩ := step?_advance h
  obtain ⟨l, r, hsplit, hset⟩ := exists_split hhandler
  obtain ⟨hstage, ⟨hstage', hfinished, htexts⟩ | ⟨rfl, hfinished, htexts⟩⟩ := hstep.effect
  · -- neither the texts nor the finished handlers change
    have hsame : deliveries true (x.handlers.set i (d, stage')) = deliveries true x.handlers := by
      rw [hset, hsplit, deliveries_append_cons, deliveries_append_cons, hstage, hstage']
    exact ⟨fun u => by rw [htexts, hfinished]; exact hx.get? u,
      by rw [hsame, hfinished]; exact hx.finished⟩
  · -- the handler finishes, and its text is the last one for its document
    refine ⟨fun u => ?_, ?_⟩
    · rw [htexts, hfinished, hx.get?, textsFor_concat, List.getLast?_append]
      cases d.textFor? u <;> simp
    · have hmore : (d :: deliveries true x.handlers).Perm
          (deliveries true (x.handlers.set i (d, .finished))) := by
        rw [hset, hsplit, deliveries_append_cons, deliveries_append_cons, hstage]
        exact List.perm_middle.symm
      rw [hfinished]
      exact (List.perm_append_singleton d x.finished).trans ((hx.finished.cons d).trans hmore)

/-- `Sound` holds in every run. -/
theorem sound_of_run? (h : run? step? (start w files) moves = some x) : Sound w x := by
  refine run?_induction (P := fun _ => Sound w) ⟨fun u => rfl, .refl _⟩ ?_ h
  intro moves m y y' _ hy hm
  cases m with
  | receive d =>
    cases hm
    refine ⟨hy.get?, ?_⟩
    simpa [deliveries, HandlerStage.isFinished] using hy.finished
  | advance i => exact hy.advance hm
  | outside registry files =>
    cases hm
    exact ⟨hy.get?, hy.finished⟩

/-- In the end everything that was received is handled, in some order. -/
private theorem Ends.perm (h : Ends w files ds x) : x.finished.Perm ds := by
  obtain ⟨⟨moves, hrun⟩, hhandlers⟩ := h
  have hall : deliveries true x.handlers = ds := by
    rw [hhandlers]
    simp [deliveries, List.filter_map, Function.comp_def, HandlerStage.isFinished]
  exact hall ▸ (sound_of_run? hrun).finished

/-- In the end the text of a document is the last one that was stored. -/
private theorem Ends.get? (h : Ends w files ds x) (u : Uri) :
    x.workspace.texts.get? u = (textsFor u x.finished).getLast?.or (w.texts.get? u) := by
  obtain ⟨⟨moves, hrun⟩, -⟩ := h
  exact (sound_of_run? hrun).get? u

/-! ## Every order -/

/-- A handler that is not held up does what `Workspace.changed` does. -/
theorem exists_uninterrupted (h : x.handlers[i]? = some (d, .received)) :
    ∃ moves, run? step? x moves = some
      { x with
        workspace := (x.workspace.changed x.files d.uri d.texts d.version).2
        told := x.told ++ (x.workspace.changed x.files d.uri d.texts d.version).1
        handlers := x.handlers.set i (d, .finished)
        finished := x.finished ++ [d] } := by
  obtain ⟨hi, -⟩ := List.getElem?_eq_some_iff.mp h
  obtain ⟨uri, texts, version⟩ := d
  cases texts with
  | nil =>
    refine ⟨[.advance i], ?_⟩
    simp [run?, step?, h, next?, Delivery.text?, Workspace.changed]
  | cons content rest =>
    -- look up, tell, store: each step finds the handler where the one before has left it
    refine ⟨[.advance i, .advance i, .advance i], ?_⟩
    have hget (stage : HandlerStage) :
        (x.handlers.set i (⟨uri, content :: rest, version⟩, stage))[i]? =
          some (⟨uri, content :: rest, version⟩, stage) :=
      List.getElem?_set_self hi
    simp only [run?, List.foldlM_cons, List.foldlM_nil, step?, h, next?, Delivery.text?,
      List.head?_cons, Option.map_some, Option.bind_eq_bind, Option.bind_some, hget, List.set_set]
    rfl

/-- Everything is received before the first handler goes on. -/
private theorem run?_receive (x : SharedTexts) (ds : List Delivery) :
    run? step? x (ds.map .receive) =
      some { x with handlers := x.handlers ++ ds.map fun d => (d, .received) } := by
  induction ds generalizing x with
  | nil => simp
  | cons d ds ih =>
    rw [List.map_cons, run?_cons]
    refine ⟨_, rfl, ?_⟩
    rw [ih]
    simp

/-- Handlers that have not started yet may finish in any order. -/
private theorem exists_run?_order (hstages : ∀ h ∈ x.handlers, h.2 = .received ∨ h.2 = .finished)
    (horder : order.Perm (deliveries false x.handlers)) :
    ∃ moves x', run? step? x moves = some x' ∧
      x'.handlers = x.handlers.map (fun h => (h.1, .finished)) ∧
      x'.finished = x.finished ++ order := by
  induction order generalizing x with
  | nil =>
    refine ⟨[], x, rfl, ?_, (List.append_nil _).symm⟩
    -- nothing is left to finish, so no handler is at its start
    have hnone : ∀ h ∈ x.handlers, h.2 ≠ .received := by
      intro h hmem hreceived
      have hopen : h.2.isFinished = false := by rw [hreceived]; rfl
      have hpending : h.1 ∈ deliveries false x.handlers :=
        List.mem_map_of_mem (List.mem_filter.mpr ⟨hmem, decide_eq_true hopen⟩)
      cases horder.symm.subset hpending
    refine (List.map_id _).symm.trans (List.map_congr_left fun h hmem => ?_)
    exact Prod.ext rfl ((hstages h hmem).resolve_left (hnone h hmem))
  | cons d order ih =>
    -- the handler that is to finish first is one of those that have not started
    have hmem : d ∈ deliveries false x.handlers := horder.subset List.mem_cons_self
    obtain ⟨⟨d', stage⟩, hhandler, rfl⟩ := List.mem_map.mp hmem
    obtain ⟨hhandler, hstage⟩ := List.mem_filter.mp hhandler
    obtain rfl | rfl : stage = .received ∨ stage = .finished := hstages _ hhandler
    · obtain ⟨i, hi⟩ := List.mem_iff_getElem?.mp hhandler
      obtain ⟨l, r, hsplit, hset⟩ := exists_split hi
      obtain ⟨moves, y, hmoves, hhandlers, hfinished⟩ : ∃ moves y, run? step? x moves = some y ∧
          y.handlers = l ++ (d', .finished) :: r ∧ y.finished = x.finished ++ [d'] := by
        obtain ⟨moves, hmoves⟩ := exists_uninterrupted hi
        exact ⟨moves, _, hmoves, hset _, rfl⟩
      have hrest : order.Perm (deliveries false y.handlers) := by
        rw [hsplit, deliveries_append_cons] at horder
        rw [hhandlers, deliveries_append_cons]
        exact (horder.trans List.perm_middle).cons_inv
      have hstages' : ∀ h ∈ y.handlers, h.2 = .received ∨ h.2 = .finished := by
        rw [hsplit, List.forall_mem_append, List.forall_mem_cons] at hstages
        rw [hhandlers, List.forall_mem_append, List.forall_mem_cons]
        exact ⟨hstages.1, .inr rfl, hstages.2.2⟩
      obtain ⟨moves', x', hmoves', hhandlers', hfinished'⟩ := ih hstages' hrest
      refine ⟨moves ++ moves', x', run?_append.mpr ⟨y, hmoves, hmoves'⟩, ?_, ?_⟩
      · rw [hhandlers', hhandlers, hsplit]
        simp
      · rw [hfinished', hfinished, List.append_assoc, List.singleton_append]
    · cases hstage

/-- Whatever was received, its handlers may finish in any order. -/
private theorem exists_ends (w : Workspace) (files : FileTree) (h : order.Perm ds) :
    ∃ x, Ends w files ds x ∧ x.finished = order := by
  -- everything is received first, and then one handler after the other runs to its end
  have hreceive := run?_receive (start w files) ds
  have hstages : ∀ h ∈ ([] : List (Delivery × HandlerStage)) ++ ds.map (fun d => (d, .received)),
      h.2 = .received ∨ h.2 = .finished := by
    simp
  have hpending : deliveries false (ds.map fun d => (d, .received)) = ds := by
    simp [deliveries, List.filter_map, Function.comp_def, HandlerStage.isFinished]
  obtain ⟨moves, x, hmoves, hhandlers, hfinished⟩ :=
    exists_run?_order (x := { start w files with handlers := _ }) hstages (hpending.symm ▸ h)
  refine ⟨x, ⟨⟨ds.map .receive ++ moves, run?_append.mpr ⟨_, hreceive, hmoves⟩⟩, ?_⟩, hfinished⟩
  rw [hhandlers]
  simp

/-! ## The text in the end -/

/-- Every text that was received for a document may be its text in the end. -/
private theorem exists_ends_get? (w : Workspace) (files : FileTree) {t : OpenText}
    (h : t ∈ textsFor u ds) : ∃ x, Ends w files ds x ∧ x.workspace.texts.get? u = some t := by
  obtain ⟨d, hd, ht⟩ := List.mem_filterMap.mp h
  obtain ⟨l, r, rfl⟩ := List.append_of_mem hd
  -- the handler of the text finishes behind all others
  have horder : (l ++ r ++ [d]).Perm (l ++ d :: r) :=
    (List.perm_append_singleton d (l ++ r)).trans List.perm_middle.symm
  obtain ⟨x, hx, hfinished⟩ := exists_ends w files horder
  refine ⟨x, hx, ?_⟩
  rw [hx.get?, hfinished, textsFor_concat, ht]
  simp

/-- Once the handlers of all that was received have finished, the text of a document is the one
taken by the handler that has finished last, or that from before if no text was received; and the
handlers may finish in any order. So where the versions of the texts increase, the text in the end
is sure to have the highest version if and only if no more than one text was received. -/
theorem last_to_finish_stays (w : Workspace) (files : FileTree) (ds : List Delivery) (u : Uri) :
    (∀ x, Ends w files ds x → x.finished.Perm ds ∧
      x.workspace.texts.get? u = (textsFor u x.finished).getLast?.or (w.texts.get? u)) ∧
    (∀ order, order.Perm ds → ∃ x, Ends w files ds x ∧ x.finished = order) ∧
    ((textsFor u ds).Pairwise (·.version < ·.version) →
      ((∀ x, Ends w files ds x → ∀ s, x.workspace.texts.get? u = some s →
          ∀ t ∈ textsFor u ds, t.version ≤ s.version) ↔
        (textsFor u ds).length ≤ 1)) := by
  refine ⟨fun x hx => ⟨hx.perm, hx.get? u⟩, fun order horder => exists_ends w files horder, ?_⟩
  intro hversions
  constructor
  · intro hnewest
    cases htexts : textsFor u ds with
    | nil => simp
    | cons t rest =>
      cases rest with
      | nil => simp
      | cons t' rest =>
        -- the handler of the first text may finish last
        obtain ⟨x, hx, hget⟩ := exists_ends_get? w files (htexts ▸ List.mem_cons_self : t ∈ _)
        have hle := hnewest x hx t hget t' (by simp [htexts])
        rw [htexts] at hversions
        have hlt := List.rel_of_pairwise_cons hversions (List.mem_cons_self : t' ∈ t' :: rest)
        omega
  · intro hlength x hx s hs t ht
    have hperm : (textsFor u x.finished).Perm (textsFor u ds) := hx.perm.filterMap _
    obtain ⟨t', htexts⟩ : ∃ t', textsFor u ds = [t'] := by
      match h : textsFor u ds with
      | [] => rw [h] at ht; cases ht
      | [t'] => exact ⟨t', rfl⟩
      | _ :: _ :: _ => rw [h] at hlength; simp at hlength
    rw [htexts] at hperm ht
    rw [hx.get?, hperm.eq_singleton] at hs
    cases hs
    cases List.mem_singleton.mp ht
    exact Int.le_refl _

/-- A document is opened, and changed while the handler of the first text is held up in front of the
store: the first text stays. A change without a text leaves the version as it was. -/
theorem older_text_stays :
    let u : Uri := ⟨"untitled", none, none, "notes", ""⟩
    let first : Delivery := ⟨u, ["a: 1"], 1⟩
    let second : Delivery := ⟨u, ["b: 1"], 2⟩
    let blank : Delivery := ⟨u, [], 2⟩
    let w : Workspace := .ofSettings .default
    let overtaken : List TextMove :=
      [.receive first, .advance 0, .advance 0, .receive second, .advance 1, .advance 1, .advance 1,
        .advance 0]
    let inTurn : List TextMove :=
      [.receive first, .advance 0, .advance 0, .advance 0, .receive blank, .advance 1]
    (∃ x, run? step? (start w .empty) overtaken = some x ∧ Ends w .empty [first, second] x ∧
      x.workspace.texts.get? u = some ⟨"a: 1", 1⟩) ∧
    (∃ x, run? step? (start w .empty) inTurn = some x ∧ Ends w .empty [first, blank] x ∧
      x.workspace.texts.get? u = some ⟨"a: 1", 1⟩) := by
  intro u first second blank w overtaken inTurn
  have hovertaken := sound_of_run? (rfl : run? step? (start w .empty) overtaken = some _)
  have hinTurn := sound_of_run? (rfl : run? step? (start w .empty) inTurn = some _)
  exact ⟨⟨_, rfl, ⟨⟨overtaken, rfl⟩, rfl⟩, (hovertaken.get? u).trans rfl⟩,
    ⟨_, rfl, ⟨⟨inTurn, rfl⟩, rfl⟩, (hinTurn.get? u).trans rfl⟩⟩

end SharedTexts

end PrimitiveDesk
