import PrimitiveDesk.Yaml.Builder

/-!
# What a step of the builder does

A step outside of documents can only open one, a step at a document's end finishes it, and every
other step works on the nodes of the current document alone. The three kinds of steps are equations
for `Builder.step` (`Builder.step_outside`, `Builder.step_ends`, `Builder.step_inside`). For the
third there is a frame condition: what happens inside a document does not depend on the documents
and problems that were there before (`Builder.behind`).

From the frame condition follows that finished documents stay as they are (`Builder.documents_step`,
`Builder.documents_suffix_foldl`), and that problems found before the first event only stand in
front of those found later (`Stream.ofEvents_eq_run`).
-/

namespace PrimitiveDesk.Yaml

open Text

/-- Whether an event starts a document. -/
def EventKind.opensDocument : EventKind → Bool
  | documentStart => true
  | _ => false

/-- Whether the current document ends with an event, or in front of it. -/
def EventKind.endsDocument : EventKind → Bool
  | documentStart => true
  | documentEnd => true
  | streamEnd => true
  | _ => false

namespace Builder

/-! ## The three kinds of steps -/

/-- The document that is open behind an event at which none was open or one ended. -/
def opened? (cs : List Char) (e : Event) : Option OpenDocument :=
  if e.kind.opensDocument then some ⟨(spanOf cs e.extent).start, .awaiting⟩ else none

/-- Where an end marker ends. -/
def markerStop? (cs : List Char) (e : Event) : Option Nat :=
  match e.kind with
  | .documentEnd => some (spanOf cs e.extent).stop
  | _ => none

/-- Outside of documents only the start of one counts. -/
theorem step_outside (cs : List Char) {b : Builder} (hb : b.current? = none) (e : Event) :
    step cs b e = { b with current? := opened? cs e } := by
  obtain ⟨documents, current?, anchors, problems⟩ := b
  subst hb
  rcases e with ⟨kind, extent⟩
  cases kind <;> rfl

/-- An event that ends a document finishes it. -/
theorem step_ends (cs : List Char) {b : Builder} {d : OpenDocument} (hb : b.current? = some d)
    {e : Event} (he : e.kind.endsDocument = true) :
    step cs b e = { b.finish d (markerStop? cs e) with current? := opened? cs e } := by
  obtain ⟨documents, current?, anchors, problems⟩ := b
  subst hb
  rcases e with ⟨kind, extent⟩
  cases kind with
  | documentStart => rfl
  | documentEnd => rfl
  | streamEnd => rfl
  | _ => exact absurd he Bool.false_ne_true

/-- Every other event goes to the nodes of the current document. -/
theorem step_inside (cs : List Char) {b : Builder} {d : OpenDocument} (hb : b.current? = some d)
    {e : Event} (he : e.kind.endsDocument = false) :
    step cs b e =
      { (b.progress cs e d.progress).1 with
        current? := some { d with progress := (b.progress cs e d.progress).2 } } := by
  obtain ⟨documents, current?, anchors, problems⟩ := b
  subst hb
  rcases e with ⟨kind, extent⟩
  cases kind with
  | documentStart => exact absurd he.symm Bool.false_ne_true
  | documentEnd => exact absurd he.symm Bool.false_ne_true
  | streamEnd => exact absurd he.symm Bool.false_ne_true
  | _ => rfl

/-! ## Problems -/

/-- `addEntry` puts the entry in front and reports at most a problem. -/
theorem exists_addEntry_eq (b : Builder) (entries : Node.Entries) (key value : Node) :
    ∃ ps, b.addEntry entries key value =
      ({ b with problems := ps ++ b.problems }, (key, value) :: entries) := by
  unfold addEntry
  cases key.str? with
  | none => exact ⟨[], rfl⟩
  | some name =>
    dsimp only
    split
    · exact ⟨[⟨.duplicateKey name, key.span⟩], rfl⟩
    · exact ⟨[], rfl⟩

/-- `give` changes nothing of the builder but its problems. -/
theorem exists_give_eq (b : Builder) (o : Open) (n : Node) :
    ∃ ps, (b.give o n).1 = { b with problems := ps ++ b.problems } := by
  cases o with
  | sequence start flow anchor stop items => exact ⟨[], rfl⟩
  | mapping start flow anchor stop entries key? =>
    cases key? with
    | none => exact ⟨[], rfl⟩
    | some key =>
      obtain ⟨ps, hadd⟩ := b.exists_addEntry_eq entries key n
      exact ⟨ps, congrArg Prod.fst hadd⟩

/-- `close` changes nothing of the builder but its problems. -/
theorem exists_close_eq (b : Builder) (o : Open) (close? : Option Nat) :
    ∃ ps, (b.close o close?).1 = { b with problems := ps ++ b.problems } := by
  cases o with
  | sequence start flow anchor stop items => exact ⟨[], rfl⟩
  | mapping start flow anchor stop entries key? =>
    cases key? with
    | none => exact ⟨[], rfl⟩
    | some key =>
      -- a missing value is given to the key that waits
      exact b.exists_give_eq (.mapping start flow anchor stop entries (some key))
        (.missing key.span.stop)

/-! ## The frame of a document -/

/-- The builder with other documents finished so far and with further problems found before. -/
def behind (b : Builder) (ds : List Document) (ps : List Problem) : Builder :=
  { b with documents := ds, problems := b.problems ++ ps }

/-! Nothing that happens inside a document depends on what was finished before. -/

section Behind

variable (b : Builder) (ds : List Document) (ps : List Problem)

private theorem addEntry_behind (entries : Node.Entries) (key value : Node) :
    (b.behind ds ps).addEntry entries key value =
      ((b.addEntry entries key value).1.behind ds ps, (b.addEntry entries key value).2) := by
  unfold addEntry
  cases key.str? with
  | none => rfl
  | some name =>
    dsimp only
    split <;> rfl

private theorem record_behind (anchor : Nat) (n : Node) :
    (b.behind ds ps).record anchor n = (b.record anchor n).behind ds ps := by
  unfold record
  split <;> rfl

private theorem give_behind (o : Open) (n : Node) :
    (b.behind ds ps).give o n = ((b.give o n).1.behind ds ps, (b.give o n).2) := by
  cases o with
  | sequence start flow anchor stop items => rfl
  | mapping start flow anchor stop entries key? =>
    cases key? with
    | none => rfl
    | some key => simp only [give, addEntry_behind]

private theorem close_behind (o : Open) (close? : Option Nat) :
    (b.behind ds ps).close o close? =
      ((b.close o close?).1.behind ds ps, (b.close o close?).2) := by
  cases o with
  | sequence start flow anchor stop items => rfl
  | mapping start flow anchor stop entries key? =>
    cases key? with
    | none => rfl
    | some key => simp only [close, give, addEntry_behind]

private theorem deliver_behind (stack : List Open) (n : Node) :
    (b.behind ds ps).deliver stack n =
      ((b.deliver stack n).1.behind ds ps, (b.deliver stack n).2) := by
  cases stack with
  | nil => rfl
  | cons o outer => simp only [deliver, give_behind]

private theorem closeInner_behind (inner : Open) (outer : List Open) (close? : Option Nat) :
    (b.behind ds ps).closeInner inner outer close? =
      ((b.closeInner inner outer close?).1.behind ds ps, (b.closeInner inner outer close?).2) := by
  simp only [closeInner, close_behind, record_behind, deliver_behind]

private theorem closeAll_behind (inner : Open) (outer : List Open) :
    (b.behind ds ps).closeAll inner outer =
      ((b.closeAll inner outer).1.behind ds ps, (b.closeAll inner outer).2) := by
  induction outer generalizing b inner with
  | nil => simp only [closeAll, close_behind, record_behind]
  | cons o outer ih => simp only [closeAll, close_behind, record_behind, give_behind, ih]

private theorem settle_behind (p : Progress) :
    (b.behind ds ps).settle p = ((b.settle p).1.behind ds ps, (b.settle p).2) := by
  cases p with
  | awaiting => rfl
  | building inner outer => exact closeAll_behind b ds ps inner outer
  | settled root? => rfl

private theorem node_behind (cs : List Char) (stack : List Open) (e : Event) :
    node cs (b.behind ds ps) stack e =
      (node cs b stack e).map fun r => (r.1.behind ds ps, r.2) := by
  unfold node
  cases e.kind with
  | «alias» anchor =>
    have hanchors : (b.behind ds ps).anchors = b.anchors := rfl
    dsimp only
    rw [hanchors]
    cases b.anchors.lookup anchor with
    | none =>
      exact congrArg some (deliver_behind { b with problems := _ :: b.problems } ds ps stack _)
    | some n => exact congrArg some (deliver_behind b ds ps stack _)
  | scalar value style anchor => simp only [record_behind, deliver_behind, Option.map_some]
  | _ => rfl

private theorem offer_behind (cs : List Char) (e : Event) (inner : Open) (outer : List Open) :
    offer cs (b.behind ds ps) e inner outer =
      ((offer cs b e inner outer).1.behind ds ps, (offer cs b e inner outer).2) := by
  induction outer generalizing b inner with
  | nil =>
    unfold offer
    split
    · exact closeInner_behind b ds ps inner [] _
    · rw [node_behind]
      cases node cs b [inner] e with
      | none => exact closeInner_behind b ds ps inner [] none
      | some r => rfl
  | cons o outer ih =>
    unfold offer
    split
    · exact closeInner_behind b ds ps inner (o :: outer) _
    · rw [node_behind]
      cases node cs b (inner :: o :: outer) e with
      -- the collection is closed, and the one around it is offered the event
      | none => simp only [Option.map_none, close_behind, record_behind, give_behind, ih]
      | some r => rfl

private theorem progress_behind (cs : List Char) (e : Event) (p : Progress) :
    (b.behind ds ps).progress cs e p =
      ((b.progress cs e p).1.behind ds ps, (b.progress cs e p).2) := by
  cases p with
  | awaiting =>
    simp only [progress, node_behind]
    cases node cs b [] e <;> rfl
  | building inner outer => exact offer_behind b ds ps cs e inner outer
  | settled root? => rfl

end Behind

/-- A builder is its own frame, so the frame conditions say that the documents stay. -/
private theorem behind_documents (b : Builder) : b.behind b.documents [] = b := by
  simp [behind]

/-- `progress` finishes no document. -/
theorem progress_documents (cs : List Char) (b : Builder) (e : Event) (p : Progress) :
    (b.progress cs e p).1.documents = b.documents := by
  have h := congrArg Prod.fst (progress_behind b b.documents [] cs e p)
  rw [behind_documents] at h
  rw [h]
  rfl

theorem settle_documents (b : Builder) (p : Progress) :
    (b.settle p).1.documents = b.documents := by
  have h := congrArg Prod.fst (settle_behind b b.documents [] p)
  rw [behind_documents] at h
  rw [h]
  rfl

/-! ## Whole runs -/

/-- A finished document, built from its parts. -/
def documentOf (start : Nat) (root? : Option Node) (stop? : Option Nat) : Document :=
  let contentEnd := root?.elim start fun n => max n.span.stop start
  ⟨root?, ⟨start, contentEnd, stop?.elim contentEnd (max contentEnd)⟩⟩

/-- `finish` puts a document in front of the finished ones. -/
theorem finish_eq (b : Builder) (d : OpenDocument) (stop? : Option Nat) :
    b.finish d stop? =
      { (b.settle d.progress).1 with
        documents := documentOf d.start (b.settle d.progress).2 stop? :: b.documents
        current? := none } := by
  have hdocuments := settle_documents b d.progress
  unfold finish documentOf
  generalize b.settle d.progress = settled at hdocuments ⊢
  obtain ⟨b', root?⟩ := settled
  rw [← hdocuments]
  cases root? <;> cases stop? <;> rfl

/-- `step` does not depend on problems found before. -/
private theorem step_behind (cs : List Char) (b : Builder) (ps : List Problem) (e : Event) :
    step cs (b.behind b.documents ps) e =
      (step cs b e).behind (step cs b e).documents ps := by
  -- the three kinds of steps, of which each keeps what is behind
  cases hb : b.current? with
  | none =>
    have hb' : (b.behind b.documents ps).current? = none := hb
    rw [step_outside cs hb', step_outside cs hb]
    rfl
  | some d =>
    have hb' : (b.behind b.documents ps).current? = some d := hb
    cases he : e.kind.endsDocument with
    | true =>
      rw [step_ends cs hb' he, step_ends cs hb he, finish_eq, finish_eq, settle_behind]
      rfl
    | false =>
      rw [step_inside cs hb' he, step_inside cs hb he, progress_behind]
      simp only [behind, progress_documents]

/-- Problems found before the first event stay behind those found later, and change nothing. -/
private theorem foldl_step_behind (cs : List Char) (events : List Event) (b : Builder)
    (ps : List Problem) :
    events.foldl (step cs) (b.behind b.documents ps) =
      (events.foldl (step cs) b).behind (events.foldl (step cs) b).documents ps := by
  induction events generalizing b with
  | nil => rfl
  | cons e events ih => rw [List.foldl_cons, List.foldl_cons, step_behind, ih]

/-- `done` does not depend on problems found before. -/
private theorem done_behind (b : Builder) (ps : List Problem) :
    (b.behind b.documents ps).done = b.done.behind b.done.documents ps := by
  have hcurrent : (b.behind b.documents ps).current? = b.current? := rfl
  unfold done
  rw [hcurrent]
  cases b.current? with
  | none => rfl
  | some d =>
    dsimp only
    rw [finish_eq, finish_eq, settle_behind]
    rfl

/-- The state of the builder at the end of a list of events. -/
def run (cs : List Char) (events : List Event) : Builder :=
  (events.foldl (step cs) initial).done

/-- `step` finishes at most one document and touches no other one. -/
theorem documents_step (cs : List Char) (b : Builder) (e : Event) :
    (step cs b e).documents = b.documents ∨
      ∃ start root? stop?,
        (step cs b e).documents = documentOf start root? stop? :: b.documents := by
  cases hb : b.current? with
  | none =>
    left
    rw [step_outside cs hb]
  | some d =>
    cases he : e.kind.endsDocument with
    -- only the end of a document finishes one
    | true =>
      right
      rw [step_ends cs hb he, finish_eq]
      exact ⟨_, _, _, rfl⟩
    | false =>
      left
      rw [step_inside cs hb he]
      exact progress_documents cs b e d.progress

/-- `done` finishes the open document. -/
theorem documents_done (b : Builder) :
    b.done.documents = b.documents ∨
      ∃ start root? stop?, b.done.documents = documentOf start root? stop? :: b.documents := by
  unfold done
  split
  · right
    rw [finish_eq]
    exact ⟨_, _, _, rfl⟩
  · exact .inl rfl

/-- `step` touches no finished document. -/
private theorem documents_suffix_step (cs : List Char) (b : Builder) (e : Event) :
    b.documents <:+ (step cs b e).documents := by
  obtain h | ⟨start, root?, stop?, h⟩ := documents_step cs b e
  · exact ⟨[], h.symm⟩
  · exact ⟨[documentOf start root? stop?], h.symm⟩

theorem documents_suffix_done (b : Builder) : b.documents <:+ b.done.documents := by
  obtain h | ⟨start, root?, stop?, h⟩ := documents_done b
  · exact ⟨[], h.symm⟩
  · exact ⟨[documentOf start root? stop?], h.symm⟩

/-- No event touches a finished document. -/
theorem documents_suffix_foldl (cs : List Char) (events : List Event) (b : Builder) :
    b.documents <:+ (events.foldl (step cs) b).documents := by
  induction events generalizing b with
  | nil => exact List.suffix_refl b.documents
  | cons e events ih =>
    rw [List.foldl_cons]
    exact (documents_suffix_step cs b e).trans (ih (step cs b e))

/-! ## Events that the innermost collection takes -/

/-- The progress of a document with the given collections open and no root yet. -/
def progressAt : List Open → Progress
  | [] => .awaiting
  | inner :: outer => .building inner outer

/-- `offer` closes the innermost collection with an event that ends it. -/
theorem offer_of_ends (cs : List Char) (b : Builder) {e : Event} {inner : Open}
    (h : ends inner e = true) (outer : List Open) :
    offer cs b e inner outer = b.closeInner inner outer (some (spanOf cs e.extent).stop) := by
  cases outer with
  | nil => rw [offer, if_pos h]
  | cons o outer => rw [offer, if_pos h]

/-- `progress` gives an event that starts or is a node to the innermost collection. -/
theorem progress_progressAt (cs : List Char) (b : Builder) {e : Event} {stack : List Open}
    {r : Builder × Progress} (hnode : node cs b stack e = some r)
    (hends : ∀ o, ends o e = false) : b.progress cs e (progressAt stack) = r := by
  cases stack with
  | nil => rw [progressAt, progress, hnode]
  | cons inner outer =>
    rw [progressAt, progress]
    cases outer with
    | nil => rw [offer, if_neg (by simp [hends]), hnode]
    | cons o outer => rw [offer, if_neg (by simp [hends]), hnode]

end Builder

/-- A stream holds what the builder found, in the order of the text and behind the problems found
before. -/
theorem Stream.ofEvents_eq_run (text : String) (events : List Event) (problems : List Problem) :
    Stream.ofEvents text events problems =
      ⟨(Builder.run text.toList events).documents.reverse,
        problems ++ (Builder.run text.toList events).problems.reverse⟩ := by
  have hstart : { Builder.initial with problems := problems.reverse } =
      Builder.initial.behind Builder.initial.documents problems.reverse := rfl
  unfold Stream.ofEvents
  dsimp only
  rw [hstart, Builder.foldl_step_behind, Builder.done_behind]
  simp [Builder.behind, Builder.run]

end PrimitiveDesk.Yaml
