import PrimitiveDesk.Proofs.Yaml.NestedSpans

/-!
# Properties of every node

Some properties of documents are about each node by itself: that a mapping starts at a certain
offset, or that the repeated keys of a mapping are reported. Such a property may depend on the
problems found so far, if further problems do not spoil it, and it goes with a property of the
collections that are still open. `Builder.EachNode` lists what is to be shown of the two, for one
function of the builder each. Then the property holds of every node in the documents of a run
(`Builder.EachNode.run`).
-/

namespace PrimitiveDesk.Yaml

namespace Node

variable {R : Node → Prop} {n : Node}

/-- A property holds of a node and of all nodes in it. -/
def Everywhere (R : Node → Prop) (n : Node) : Prop :=
  ∀ address m, n.part? address = some m → R m

theorem everywhere_iff : n.Everywhere R ↔ R n ∧ ∀ m ∈ n.children, m.Everywhere R := by
  constructor
  · intro h
    refine ⟨h [] n rfl, ?_⟩
    intro m hm address k hpart
    obtain ⟨i, hi⟩ := List.mem_iff_getElem?.mp hm
    refine h (i :: address) k ?_
    rw [part?, hi]
    exact hpart
  · rintro ⟨hself, hchildren⟩ address m hpart
    cases address with
    | nil => exact Option.some.inj hpart ▸ hself
    | cons i address =>
      obtain ⟨k, hk, hbelow⟩ := Option.bind_eq_some_iff.mp hpart
      exact hchildren k (List.mem_of_getElem? hk) address m hbelow

end Node

namespace Builder

variable {cs : List Char} {E : Event → Prop} {R : List Problem → Node → Prop}
  {O : List Problem → Open → Prop}

/-- A property of nodes and one of open collections, both under the problems found so far, are kept
by the builder if all events have the property `E`. -/
structure EachNode (cs : List Char) (E : Event → Prop) (R : List Problem → Node → Prop)
    (O : List Problem → Open → Prop) : Prop where
  report : ∀ {ps n} ps', R ps n → R (ps' ++ ps) n
  reportOpen : ∀ {ps o} ps', O ps o → O (ps' ++ ps) o
  scalar : ∀ {ps} v s, R ps (.scalar v s)
  copy : ∀ {ps n anchor x}, E ⟨.alias anchor, x⟩ → R ps n → R ps (n.withSpan (spanOf cs x))
  openSequence : ∀ {ps anchor x} flow, E ⟨.sequenceStart anchor, x⟩ →
    O ps (.sequence (spanOf cs x).start flow anchor (spanOf cs x).start [])
  openMapping : ∀ {ps anchor x} flow, E ⟨.mappingStart anchor, x⟩ →
    O ps (.mapping (spanOf cs x).start flow anchor (spanOf cs x).start [] none)
  give : ∀ {b : Builder} {o} n, O b.problems o → O (b.give o n).1.problems (b.give o n).2
  close : ∀ {b : Builder} {o : Open} close?, o.waiting? = none → O b.problems o →
    R b.problems (b.close o close?).2.2

/-- The properties hold of an open collection and of all nodes in it. -/
structure OpenHolds (R : List Problem → Node → Prop) (O : List Problem → Open → Prop)
    (ps : List Problem) (o : Open) : Prop where
  self : O ps o
  children : ∀ m ∈ o.children, m.Everywhere (R ps)

/-- The properties hold of all that is under construction. -/
def ProgressHolds (R : List Problem → Node → Prop) (O : List Problem → Open → Prop)
    (ps : List Problem) : Progress → Prop
  | .awaiting => True
  | .building inner outer => ∀ o ∈ inner :: outer, OpenHolds R O ps o
  | .settled root? => ∀ n ∈ root?, n.Everywhere (R ps)

/-- The property holds of all nodes that are finished. -/
structure FinishedHolds (R : List Problem → Node → Prop) (b : Builder) : Prop where
  documents : ∀ d ∈ b.documents, ∀ n ∈ d.root?, n.Everywhere (R b.problems)
  anchors : ∀ a ∈ b.anchors, a.2.Everywhere (R b.problems)

/-- The properties hold of all that the builder has. -/
def Holds (R : List Problem → Node → Prop) (O : List Problem → Open → Prop) (b : Builder)
    (p : Progress) : Prop :=
  FinishedHolds R b ∧ ProgressHolds R O b.problems p

/-- `ProgressHolds` looks at each open collection. -/
private theorem progressHolds_progressAt {ps : List Problem} {stack : List Open} :
    ProgressHolds R O ps (progressAt stack) ↔ ∀ o ∈ stack, OpenHolds R O ps o := by
  cases stack with
  | nil => simp [progressAt, ProgressHolds]
  | cons inner outer => rfl

/-- `Holds` can be carried from one document to the next. -/
private theorem carried_holds : Carried (Holds R O) where
  current _ h := ⟨⟨h.1.documents, h.1.anchors⟩, h.2⟩
  awaiting h := ⟨h.1, trivial⟩
  finish _ _ h := ⟨⟨List.forall_mem_cons.mpr ⟨h.2, h.1.documents⟩, h.1.anchors⟩, nofun⟩

namespace EachNode

variable (h : EachNode cs E R O) {b : Builder} {o : Open} {n : Node}

include h

/-- Further problems spoil no open collection. -/
private theorem openHolds_append {ps : List Problem} (ho : OpenHolds R O ps o)
    (ps' : List Problem) : OpenHolds R O (ps' ++ ps) o :=
  ⟨h.reportOpen ps' ho.self, fun m hm address k hk => h.report ps' (ho.children m hm address k hk)⟩

/-- Further problems spoil nothing that is finished. -/
private theorem finishedHolds_append (hb : FinishedHolds R b) (ps : List Problem) :
    FinishedHolds R { b with problems := ps ++ b.problems } where
  documents d hd n hn address m hm := h.report ps (hb.documents d hd n hn address m hm)
  anchors a ha address m hm := h.report ps (hb.anchors a ha address m hm)

private theorem everywhere_scalar {ps : List Problem} (v : Scalar) (s : Span) :
    (Node.scalar v s).Everywhere (R ps) :=
  Node.everywhere_iff.mpr ⟨h.scalar v s, nofun⟩

/-- `give` adds a node of which the property holds. -/
private theorem openHolds_give (ho : OpenHolds R O b.problems o)
    (hn : n.Everywhere (R b.problems)) : OpenHolds R O (b.give o n).1.problems (b.give o n).2 := by
  refine ⟨h.give n ho.self, ?_⟩
  obtain ⟨ps, hb⟩ := b.exists_give_eq o n
  rw [children_give, hb]
  refine List.forall_mem_append.mpr ⟨(h.openHolds_append ho ps).children, fun m hm => ?_⟩
  rw [List.mem_singleton.mp hm]
  exact fun address k hk => h.report ps (hn address k hk)

/-- `close` makes a node of a collection. -/
private theorem everywhere_close (ho : OpenHolds R O b.problems o) (close? : Option Nat) :
    (b.close o close?).2.2.Everywhere (R (b.close o close?).1.problems) := by
  -- without a key that waits the parts stay the same
  have hclose {b : Builder} {o : Open} (ho : OpenHolds R O b.problems o)
      (hwaiting : o.waiting? = none) :
      (b.close o close?).2.2.Everywhere (R (b.close o close?).1.problems) := by
    have hn : (b.close o close?).2.2.Everywhere (R b.problems) := by
      rw [Node.everywhere_iff, children_close_of_not_waiting b hwaiting]
      exact ⟨h.close close? hwaiting ho.self, ho.children⟩
    obtain ⟨ps, hb⟩ := b.exists_close_eq o close?
    rw [hb]
    exact fun address k hk => h.report ps (hn address k hk)
  cases hwaiting : o.waiting? with
  | none => exact hclose ho hwaiting
  | some key =>
    -- a key that waits is given a missing value first
    obtain ⟨hwaiting', heq⟩ := close_of_waiting b hwaiting close?
    rw [heq]
    exact hclose (h.openHolds_give ho (h.everywhere_scalar _ _)) hwaiting'

/-- `deliver` adds a node of which the property holds. -/
private theorem holds_deliver (hb : FinishedHolds R b) {stack : List Open}
    (hstack : ∀ o ∈ stack, OpenHolds R O b.problems o) (hn : n.Everywhere (R b.problems)) :
    Holds R O (b.deliver stack n).1 (b.deliver stack n).2 := by
  cases stack with
  | nil => exact ⟨hb, fun m hm => Option.some.inj hm ▸ hn⟩
  | cons o outer =>
    obtain ⟨ho, houter⟩ := List.forall_mem_cons.mp hstack
    have hgive := h.openHolds_give ho hn
    obtain ⟨ps, hps⟩ := b.exists_give_eq o n
    unfold deliver
    dsimp only
    rw [hps] at hgive ⊢
    exact ⟨h.finishedHolds_append hb ps,
      List.forall_mem_cons.mpr ⟨hgive, fun o ho => h.openHolds_append (houter o ho) ps⟩⟩

/-- `record` keeps a node of which the property holds. -/
private theorem holds_record_deliver (hb : FinishedHolds R b) {stack : List Open}
    (hstack : ∀ o ∈ stack, OpenHolds R O b.problems o) (hn : n.Everywhere (R b.problems))
    (anchor : Nat) :
    Holds R O ((b.record anchor n).deliver stack n).1 ((b.record anchor n).deliver stack n).2 := by
  unfold Builder.record
  split
  · exact h.holds_deliver hb hstack hn
  · have hrecord : FinishedHolds R { b with anchors := (anchor, n) :: b.anchors } :=
      ⟨hb.documents, List.forall_mem_cons.mpr ⟨hn, hb.anchors⟩⟩
    exact h.holds_deliver hrecord hstack hn

/-- `closeInner` records and delivers the collection that it closes. -/
private theorem holds_closeInner (hb : FinishedHolds R b) {inner : Open} {outer : List Open}
    (hopen : ∀ o ∈ inner :: outer, OpenHolds R O b.problems o) (close? : Option Nat) :
    Holds R O (b.closeInner inner outer close?).1 (b.closeInner inner outer close?).2 := by
  obtain ⟨hinner, houter⟩ := List.forall_mem_cons.mp hopen
  have hclose := h.everywhere_close hinner close?
  obtain ⟨ps, hps⟩ := b.exists_close_eq inner close?
  unfold closeInner
  dsimp only
  rw [hps] at hclose ⊢
  exact h.holds_record_deliver (h.finishedHolds_append hb ps)
    (fun o ho => h.openHolds_append (houter o ho) ps) hclose _

/-- Every move keeps the properties. -/
private theorem kept : Kept cs fun s past => (∀ e ∈ past, E e) → Holds R O s.1 s.2 := by
  intro s es s' hmove past hholds hevents
  obtain ⟨hpast, hes⟩ := List.forall_mem_append.mp hevents
  obtain ⟨hb, hp⟩ := hholds hpast
  cases hmove with
  | scalar =>
    exact h.holds_record_deliver hb (progressHolds_progressAt.mp hp) (h.everywhere_scalar _ _) _
  | @copy b stack anchor x n hlookup =>
    -- the copy has the parts of a node that was recorded
    obtain ⟨front, back, hsplit, -⟩ := List.lookup_eq_some_iff.mp hlookup
    obtain ⟨hself, hparts⟩ := Node.everywhere_iff.mp (hb.anchors (anchor, n) (by simp [hsplit]))
    refine h.holds_deliver hb (progressHolds_progressAt.mp hp) (Node.everywhere_iff.mpr ⟨?_, ?_⟩)
    · exact h.copy (hes _ List.mem_cons_self) hself
    · cases n <;> exact hparts
  | @unknown b stack anchor x hlookup =>
    refine h.holds_deliver (h.finishedHolds_append hb [⟨.unknownAlias, spanOf cs x⟩]) ?_
      (h.everywhere_scalar _ _)
    exact fun o ho => h.openHolds_append (progressHolds_progressAt.mp hp o ho) _
  | openSequence =>
    have he := hes _ List.mem_cons_self
    exact ⟨hb, List.forall_mem_cons.mpr
      ⟨⟨h.openSequence _ he, nofun⟩, progressHolds_progressAt.mp hp⟩⟩
  | openMapping =>
    have he := hes _ List.mem_cons_self
    exact ⟨hb, List.forall_mem_cons.mpr
      ⟨⟨h.openMapping _ he, nofun⟩, progressHolds_progressAt.mp hp⟩⟩
  | close hends => exact h.holds_closeInner hb hp _
  | cut => exact h.holds_closeInner hb hp none
  | settle => exact ⟨hb, nofun⟩
  | skip => exact ⟨hb, hp⟩

/-- The property holds of every node in the documents of `run`. -/
theorem run {events : List Event} (hevents : ∀ e ∈ events, E e) :
    ∀ d ∈ (run cs events).documents, ∀ n ∈ d.root?,
      n.Everywhere (R (Builder.run cs events).problems) :=
  (carried_holds.run h.kept ⟨⟨nofun, nofun⟩, nofun⟩ hevents).1.documents

end EachNode

end Builder

end PrimitiveDesk.Yaml
