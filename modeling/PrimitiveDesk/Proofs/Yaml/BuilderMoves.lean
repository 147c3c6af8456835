import PrimitiveDesk.Proofs.Yaml.BuilderStep

/-!
# The moves of the builder inside a document

Inside a document one event can make the builder do several things in a row: it closes collections
that cannot take the event, and then the event is taken or passed over. `Move` lists all that can
happen, one thing at a time, with the events that are used up by it. What every move keeps is kept
by an event inside a document (`Kept.progress`) and at the end of a document (`Kept.settle`). If it
can also be carried from one document to the next, it holds at the end of every run (`Carried.run`).
-/

namespace PrimitiveDesk.Yaml.Builder

/-- One thing that the builder does inside a document, and the events that it uses up. -/
inductive Move (cs : List Char) : Builder × Progress → List Event → Builder × Progress → Prop
  /-- A scalar is recorded under its anchor and delivered. -/
  | scalar {b : Builder} {stack : List Open} {text : String} {style : Style} {anchor : Nat}
      {x : Extent} :
    Move cs (b, progressAt stack) [⟨.scalar text style anchor, x⟩]
      ((b.record anchor (scalarNode cs text style x)).deliver stack (scalarNode cs text style x))
  /-- An alias delivers a copy of the node under its anchor. -/
  | copy {b : Builder} {stack : List Open} {anchor : Nat} {x : Extent} {n : Node}
      (h : b.anchors.lookup anchor = some n) :
    Move cs (b, progressAt stack) [⟨.alias anchor, x⟩] (b.deliver stack (n.withSpan (spanOf cs x)))
  /-- An alias without a node is a problem, and delivers an empty scalar. -/
  | unknown {b : Builder} {stack : List Open} {anchor : Nat} {x : Extent}
      (h : b.anchors.lookup anchor = none) :
    Move cs (b, progressAt stack) [⟨.alias anchor, x⟩]
      ({ b with problems := ⟨.unknownAlias, spanOf cs x⟩ :: b.problems }.deliver stack
        (.plain "" (spanOf cs x)))
  /-- A sequence is opened. -/
  | openSequence {b : Builder} {stack : List Open} {anchor : Nat} {x : Extent} {flow : Bool} :
    Move cs (b, progressAt stack) [⟨.sequenceStart anchor, x⟩]
      (b, .building (.sequence (spanOf cs x).start flow anchor (spanOf cs x).start []) stack)
  /-- A mapping is opened. -/
  | openMapping {b : Builder} {stack : List Open} {anchor : Nat} {x : Extent} {flow : Bool} :
    Move cs (b, progressAt stack) [⟨.mappingStart anchor, x⟩]
      (b, .building (.mapping (spanOf cs x).start flow anchor (spanOf cs x).start [] none) stack)
  /-- The innermost collection is closed by its end. -/
  | close {b : Builder} {inner : Open} {outer : List Open} {e : Event}
      (h : ends inner e = true) :
    Move cs (b, .building inner outer) [e]
      (b.closeInner inner outer (some (spanOf cs e.extent).stop))
  /-- The innermost collection is closed without its end. -/
  | cut {b : Builder} {inner : Open} {outer : List Open} :
    Move cs (b, .building inner outer) [] (b.closeInner inner outer none)
  /-- There is no root. -/
  | settle {b : Builder} : Move cs (b, .awaiting) [] (b, .settled none)
  /-- Behind the root nothing counts. -/
  | skip {b : Builder} {root? : Option Node} {e : Event} :
    Move cs (b, .settled root?) [e] (b, .settled root?)

/-- `node` makes a move. -/
private theorem move_of_node {cs : List Char} {b : Builder} {stack : List Open} {e : Event}
    {r : Builder × Progress} (h : node cs b stack e = some r) :
    Move cs (b, progressAt stack) [e] r := by
  obtain ⟨kind, x⟩ := e
  unfold node at h
  cases kind with
  | scalar text style anchor => cases h; exact .scalar
  | «alias» anchor =>
    dsimp only at h
    cases hlookup : b.anchors.lookup anchor with
    | some n =>
      rw [hlookup] at h
      cases h
      exact .copy hlookup
    | none =>
      rw [hlookup] at h
      cases h
      exact .unknown hlookup
  | sequenceStart anchor => cases h; exact .openSequence
  | mappingStart anchor => cases h; exact .openMapping
  | _ => cases h

/-- A property of the state and of the events used up so far in the document is kept by all
moves. -/
def Kept (cs : List Char) (I : Builder × Progress → List Event → Prop) : Prop :=
  ∀ s es s', Move cs s es s' → ∀ past, I s past → I s' (past ++ es)

namespace Kept

variable {cs : List Char} {I : Builder × Progress → List Event → Prop} (h : Kept cs I)

include h

/-- `offer` closes the collections that cannot take the event, one after the other. The induction is
on the collections around. -/
private theorem offer {b : Builder} {inner : Open} {outer : List Open} {past : List Event}
    (e : Event) (hpast : I (b, .building inner outer) past) :
    I (offer cs b e inner outer) (past ++ [e]) := by
  induction outer generalizing b inner past with
  | nil =>
    unfold Builder.offer
    split
    · next hends => exact h _ _ _ (.close hends) past hpast
    · split
      · next r hr =>
        have hmove : Move cs (b, progressAt [inner]) [e] r := move_of_node hr
        exact h _ _ _ hmove past hpast
      · -- the root is closed without its end, and the event is passed over
        have hcut := h _ _ _ .cut past hpast
        rw [List.append_nil] at hcut
        exact h _ _ _ .skip past hcut
  | cons o outer ih =>
    unfold Builder.offer
    split
    · next hends => exact h _ _ _ (.close hends) past hpast
    · split
      · next r hr =>
        have hmove : Move cs (b, progressAt (inner :: o :: outer)) [e] r := move_of_node hr
        exact h _ _ _ hmove past hpast
      · -- the collection is closed without its end, and the one around it is offered the event
        have hcut := h _ _ _ .cut past hpast
        rw [List.append_nil] at hcut
        exact ih hcut

/-- What moves keep, `progress` keeps. -/
theorem progress {b : Builder} {p : Progress} {past : List Event} (e : Event)
    (hpast : I (b, p) past) : I (b.progress cs e p) (past ++ [e]) := by
  cases p with
  | awaiting =>
    rw [Builder.progress]
    split
    · next r hr =>
      have hmove : Move cs (b, progressAt []) [e] r := move_of_node hr
      exact h _ _ _ hmove past hpast
    · -- an event that starts no node ends the wait for a root
      have hsettled := h _ _ _ .settle past hpast
      rw [List.append_nil] at hsettled
      exact h _ _ _ .skip past hsettled
  | building inner outer => exact h.offer e hpast
  | settled root? => exact h _ _ _ .skip past hpast

/-- What moves keep, `closeAll` keeps. -/
private theorem closeAll {b : Builder} {inner : Open} {outer : List Open} {past : List Event}
    (hpast : I (b, .building inner outer) past) :
    I ((b.closeAll inner outer).1, .settled (b.closeAll inner outer).2) past := by
  induction outer generalizing b inner with
  | nil =>
    have hcut := h _ _ _ .cut past hpast
    rwa [List.append_nil] at hcut
  | cons o outer ih =>
    have hcut := h _ _ _ .cut past hpast
    rw [List.append_nil] at hcut
    exact ih hcut

/-- What moves keep, `settle` keeps. -/
theorem settle {b : Builder} {p : Progress} {past : List Event} (hpast : I (b, p) past) :
    I ((b.settle p).1, .settled (b.settle p).2) past := by
  cases p with
  | awaiting =>
    have hsettled := h _ _ _ .settle past hpast
    rwa [List.append_nil] at hsettled
  | building inner outer => exact h.closeAll hpast
  | settled root? => exact hpast

end Kept

/-! ## Whole runs -/

/-- The progress of the current document; nothing is under construction outside of documents. -/
def currentProgress (b : Builder) : Progress :=
  b.current?.elim (.settled none) (·.progress)

/-- A property of the builder and of what is under construction can be carried from one document to
the next. -/
structure Carried (I : Builder → Progress → Prop) : Prop where
  /-- It does not depend on the current document. -/
  current : ∀ {b p} c?, I b p → I { b with current? := c? } p
  /-- It holds again at the start of a document. -/
  awaiting : ∀ {b p}, I b p → I b .awaiting
  /-- It holds on when the root of a document is put among the finished ones. -/
  finish : ∀ {b root?} start stop?, I b (.settled root?) →
    I { b with documents := documentOf start root? stop? :: b.documents } (.settled none)

namespace Carried

variable {cs : List Char} {I : Builder → Progress → Prop} {E : Event → Prop} {b : Builder}
  (hI : Carried I) (hkept : Kept cs fun s past => (∀ e ∈ past, E e) → I s.1 s.2)

include hI

/-- An event opens a document or leaves nothing under construction. -/
private theorem opened (h : I b (.settled none)) (e : Event) :
    I { b with current? := opened? cs e } ((opened? cs e).elim (.settled none) (·.progress)) := by
  refine hI.current _ ?_
  unfold opened?
  split
  · exact hI.awaiting h
  · exact h

include hkept

/-- `Builder.finish` keeps what can be carried. -/
private theorem of_finish {d : OpenDocument} (h : I b d.progress) (stop? : Option Nat) :
    I (b.finish d stop?) (.settled none) := by
  -- closing what is open uses up no event
  have hsettled := Kept.settle hkept (fun _ => h) (List.forall_mem_nil _)
  rw [finish_eq, ← settle_documents b d.progress]
  exact hI.current none (hI.finish d.start stop? hsettled)

/-- `Builder.step` keeps what can be carried. -/
private theorem step (h : I b b.currentProgress) {e : Event} (he : E e) :
    I (Builder.step cs b e) (Builder.step cs b e).currentProgress := by
  cases hb : b.current? with
  | none =>
    rw [currentProgress, hb] at h
    rw [step_outside cs hb]
    exact hI.opened h e
  | some d =>
    rw [currentProgress, hb] at h
    cases hends : e.kind.endsDocument with
    | true =>
      rw [step_ends cs hb hends]
      exact hI.opened (hI.of_finish hkept h (markerStop? cs e)) e
    | false =>
      -- the property holds already, so that this event is all of its past
      have hpast : (∀ e ∈ [], E e) → I b d.progress := fun _ => h
      have hprogress := Kept.progress hkept e hpast (List.forall_mem_singleton.mpr he)
      rw [step_inside cs hb hends]
      exact hI.current _ hprogress

/-- What can be carried holds after any number of events. -/
private theorem foldl_step {events : List Event} (h : I b b.currentProgress)
    (hevents : ∀ e ∈ events, E e) :
    I (events.foldl (Builder.step cs) b) (events.foldl (Builder.step cs) b).currentProgress := by
  induction events generalizing b with
  | nil => exact h
  | cons e events ih =>
    obtain ⟨he, hevents⟩ := List.forall_mem_cons.mp hevents
    exact ih (hI.step hkept h he) hevents

/-- What moves keep and what can be carried holds at the end of every run. -/
theorem run {events : List Event} (hinitial : I initial (.settled none))
    (hevents : ∀ e ∈ events, E e) : I (run cs events) (.settled none) := by
  have h := hI.foldl_step hkept (b := initial) hinitial hevents
  unfold Builder.run done
  split
  · next d hd =>
    rw [currentProgress, hd] at h
    exact hI.of_finish hkept h none
  · next hnone =>
    rw [currentProgress, hnone] at h
    exact h

end Carried

end PrimitiveDesk.Yaml.Builder
