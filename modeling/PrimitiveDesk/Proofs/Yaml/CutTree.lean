import Mathlib.Data.List.Forall2
import PrimitiveDesk.Proofs.Yaml.BuilderMoves
import PrimitiveDesk.Proofs.Yaml.CutStream

/-!
# The trees of arbitrary events

Any list of events tells a tree, also one whose collections do not end or end in the wrong order: a
collection then ends in front of the first event that it cannot take. In a `CutTree` aliases are not
resolved yet, so that its nodes are those of the built document less what aliases copy. What an
alias copies is told by events as well, further up or in an earlier document; so along with the tree
of the current document goes that all nodes under anchors were told (`Recorded`).

Each `Move` of the builder keeps to the tree that its events tell, and so every document of
`Builder.run` has one (`Builder.exists_cutTree`).
-/

namespace PrimitiveDesk.Yaml

open Text Builder

/-- The nodes right below a node: the items of a sequence, the keys and values of a mapping. -/
def Node.children : Node → List Node
  | .scalar _ _ => []
  | .sequence items _ => items
  | .mapping entries _ => entries.flatMap fun e => [e.1, e.2]

/-- A node as its events tell it, whether or not its end was met. -/
inductive CutTree where
  /-- A scalar or an alias. -/
  | leaf (e : Event)
  /-- A value for which there is no event. -/
  | missing
  /-- A collection with its items, or its keys and values; it may have no end. -/
  | collection (opening : Event) (parts : List CutTree) (closing? : Option Event)

namespace CutTree

mutual

/-- The events of a tree. -/
def events : CutTree → List Event
  | leaf e => [e]
  | missing => []
  | collection opening parts closing? => opening :: (partEvents parts ++ closing?.toList)

/-- The events of trees, one after the other. -/
def partEvents : List CutTree → List Event
  | [] => []
  | t :: rest => events t ++ partEvents rest

end

/-- A missing value can only stand behind the last key, where that key ends. -/
def MissingLast (parts : List CutTree) (nodes : List Node) : Prop :=
  missing ∉ parts ∨ ∃ front nodes' key, parts = front ++ [missing] ∧ missing ∉ front ∧
    nodes = nodes' ++ [key, Node.missing key.span.stop]

/-- Whether the tree is an alias. -/
def isAlias : CutTree → Bool
  | leaf ⟨.alias _, _⟩ => true
  | _ => false

/-- Among the events `es`, the tree is that of the node. What an alias copies is not in the tree. -/
inductive Fits (cs : List Char) (es : List Event) : CutTree → Node → Prop
  | scalar {text : String} {style : Style} {anchor : Nat} {x : Extent} :
    Fits cs es (leaf ⟨.scalar text style anchor, x⟩) (scalarNode cs text style x)
  /-- The parts of an alias are those of a node that some of the events tell. -/
  | copy {anchor : Nat} {x : Extent} {t : CutTree} {m n : Node} (hspan : n.span = spanOf cs x)
    (halias : t.isAlias = false) (hevents : t.events <:+: es) (hwritten : Fits cs es t m)
    (hchildren : n.children = m.children) : Fits cs es (leaf ⟨.alias anchor, x⟩) n
  | unknown {anchor : Nat} {x : Extent} {n : Node} (hspan : n.span = spanOf cs x)
    (hchildren : n.children = []) : Fits cs es (leaf ⟨.alias anchor, x⟩) n
  | missing {offset : Nat} : Fits cs es missing (.missing offset)
  | collection {opening : Event} {parts : List CutTree} {closing? : Option Event} {n : Node}
    (hstart : n.span.start = byteOffset cs opening.extent.start.index)
    (hstop : n.span.start ≤ n.span.stop) (hcovers : ∀ m ∈ n.children, m.span.stop ≤ n.span.stop)
    (hparts : List.Forall₂ (Fits cs es) parts n.children)
    (hmissing : MissingLast parts n.children) : Fits cs es (collection opening parts closing?) n

/-- `partEvents` are told one after the other. -/
theorem partEvents_append (ts us : List CutTree) :
    partEvents (ts ++ us) = partEvents ts ++ partEvents us := by
  induction ts with
  | nil => rfl
  | cons t ts ih => rw [List.cons_append, partEvents, partEvents, ih, List.append_assoc]

end CutTree

/-! ## Open collections -/

namespace Open

/-- Where a collection starts. -/
def start : Open → Nat
  | sequence start _ _ _ _ => start
  | mapping start _ _ _ _ _ => start

/-- The parts of a collection so far, in order. -/
def children : Open → List Node
  | sequence _ _ _ _ items => items.reverse
  | mapping _ _ _ _ entries key? => (entries.reverse.flatMap fun e => [e.1, e.2]) ++ key?.toList

/-- The key that waits for its value. -/
def waiting? : Open → Option Node
  | sequence _ _ _ _ _ => none
  | mapping _ _ _ _ _ key? => key?

/-- The end of a collection so far is behind its start and its parts, but for a key that waits for
its value. -/
def Covers : Open → Prop
  | sequence start _ _ stop items => start ≤ stop ∧ ∀ n ∈ items, n.span.stop ≤ stop
  | mapping start _ _ stop entries _ =>
    start ≤ stop ∧ ∀ e ∈ entries, e.1.span.stop ≤ stop ∧ e.2.span.stop ≤ stop

end Open

namespace Builder

variable (b : Builder) {o : Open}

theorem start_give (o : Open) (n : Node) : (b.give o n).2.start = o.start := by
  cases o with
  | sequence start flow anchor stop items => rfl
  | mapping start flow anchor stop entries key? => cases key? <;> rfl

/-- `give` puts a node behind the parts so far. -/
theorem children_give (o : Open) (n : Node) : (b.give o n).2.children = o.children ++ [n] := by
  cases o with
  | sequence start flow anchor stop items => exact List.reverse_cons
  | mapping start flow anchor stop entries key? =>
    cases key? with
    | none => simp [give, Open.children]
    | some key => simp [give, addEntry, Open.children]

/-- `give` moves the end of a collection behind the node. -/
private theorem covers_give (h : o.Covers) (n : Node) : (b.give o n).2.Covers := by
  cases o with
  | sequence start flow anchor stop items =>
    obtain ⟨hstart, hitems⟩ := h
    refine ⟨by omega, List.forall_mem_cons.mpr ⟨by omega, ?_⟩⟩
    intro m hm
    have := hitems m hm
    omega
  | mapping start flow anchor stop entries key? =>
    -- a key waits for its value before it counts
    cases key? with
    | none => exact h
    | some key =>
      obtain ⟨hstart, hentries⟩ := h
      refine ⟨by omega, List.forall_mem_cons.mpr ⟨⟨?_, ?_⟩, ?_⟩⟩
      · dsimp only
        omega
      · dsimp only
        omega
      · intro e he
        have := hentries e he
        omega

/-- A key that waits is the last part. -/
private theorem exists_children_of_waiting? {key : Node} (h : o.waiting? = some key) :
    ∃ nodes, o.children = nodes ++ [key] := by
  cases o with
  | sequence start flow anchor stop items => cases h
  | mapping start flow anchor stop entries key? =>
    have hkey : key? = some key := h
    exact ⟨_, by rw [Open.children, hkey]; rfl⟩

/-- A closing bracket only moves the end of a collection further. -/
private theorem le_ending (close? : Option Nat) (flow : Bool) (stop : Nat) :
    stop ≤ match close? with
      | some c => if flow then max stop c else stop
      | none => stop := by
  cases close? with
  | none => exact Nat.le_refl stop
  | some c =>
    cases flow with
    | false => exact Nat.le_refl stop
    | true => exact Nat.le_max_left stop c

/-- `close` of a collection without a key that waits keeps its parts. -/
theorem children_close_of_not_waiting (h : o.waiting? = none) (close? : Option Nat) :
    (b.close o close?).2.2.children = o.children := by
  cases o with
  | sequence start flow anchor stop items => rfl
  | mapping start flow anchor stop entries key? =>
    have hkey : key? = none := h
    subst hkey
    simp [Open.children, close, Node.children]

/-- `close` of a collection without a key that waits ends it behind its parts. -/
private theorem close_of_not_waiting (h : o.waiting? = none) (hcovers : o.Covers)
    (close? : Option Nat) :
    ∃ stop, (b.close o close?).2.2.span = ⟨o.start, stop⟩ ∧ o.start ≤ stop ∧
      ∀ m ∈ o.children, m.span.stop ≤ stop := by
  cases o with
  | sequence start flow anchor stop items =>
    obtain ⟨hstart, hitems⟩ := hcovers
    have hstop := le_ending close? flow stop
    refine ⟨_, rfl, Nat.le_trans hstart hstop, ?_⟩
    intro m hm
    exact Nat.le_trans (hitems m (List.mem_reverse.mp hm)) hstop
  | mapping start flow anchor stop entries key? =>
    obtain ⟨hstart, hentries⟩ := hcovers
    have hkey : key? = none := h
    subst hkey
    have hstop := le_ending close? flow stop
    refine ⟨_, rfl, Nat.le_trans hstart hstop, ?_⟩
    intro m hm
    simp only [Open.children, Option.toList_none, List.append_nil, List.mem_flatMap,
      List.mem_reverse, List.mem_cons, List.not_mem_nil, or_false] at hm
    obtain ⟨e, he, rfl | rfl⟩ := hm
    · exact Nat.le_trans (hentries e he).1 hstop
    · exact Nat.le_trans (hentries e he).2 hstop

/-- `close` gives a missing value to a key that waits. -/
theorem close_of_waiting {key : Node} (h : o.waiting? = some key) (close? : Option Nat) :
    (b.give o (.missing key.span.stop)).2.waiting? = none ∧
      b.close o close? = (b.give o (.missing key.span.stop)).1.close
        (b.give o (.missing key.span.stop)).2 close? := by
  cases o with
  | sequence start flow anchor stop items => cases h
  | mapping start flow anchor stop entries key? =>
    have hkey : key? = some key := h
    subst hkey
    exact ⟨rfl, rfl⟩

end Builder

/-! ## What the events of a document tell -/

/-- A collection whose end was not met, as its events tell it. -/
structure OpenTree where
  opening : Event
  parts : List CutTree

namespace OpenTree

/-- The events of an open collection so far. -/
def events (u : OpenTree) : List Event :=
  u.opening :: CutTree.partEvents u.parts

/-- Among the events `es`, the tree is that of the open collection. -/
structure Fits (cs : List Char) (es : List Event) (u : OpenTree) (o : Open) : Prop where
  start : o.start = byteOffset cs u.opening.extent.start.index
  covers : o.Covers
  parts : List.Forall₂ (CutTree.Fits cs es) u.parts o.children
  present : .missing ∉ u.parts

/-- The tree with one more part. -/
def add (u : OpenTree) (t : CutTree) : OpenTree :=
  { u with parts := u.parts ++ [t] }

private theorem events_add (u : OpenTree) (t : CutTree) :
    (u.add t).events = u.events ++ t.events := by
  rw [events, add, CutTree.partEvents_append, CutTree.partEvents, CutTree.partEvents,
    List.append_nil, events, List.cons_append]

variable {cs : List Char} {es : List Event} {u : OpenTree} {o : Open} {t : CutTree} {n : Node}

/-- `Builder.give` adds the tree of the node behind the parts so far. -/
private theorem Fits.give (h : u.Fits cs es o) (ht : t ≠ .missing) (hn : t.Fits cs es n)
    (b : Builder) :
    (u.add t).Fits cs es (b.give o n).2 where
  start := by rw [start_give, h.start]; rfl
  covers := covers_give b h.covers n
  parts := by
    rw [children_give]
    exact List.rel_append h.parts (.cons hn .nil)
  present := by
    intro hmem
    rcases List.mem_append.mp hmem with hmem | hmem
    · exact h.present hmem
    · exact ht (List.mem_singleton.mp hmem).symm

/-- A collection without a key that waits is closed with the tree of its parts. -/
private theorem fits_close {opening : Event} {parts : List CutTree} (hwaiting : o.waiting? = none)
    (hstart : o.start = byteOffset cs opening.extent.start.index) (hcovers : o.Covers)
    (hparts : List.Forall₂ (CutTree.Fits cs es) parts o.children)
    (hmissing : CutTree.MissingLast parts o.children) (b : Builder) (close? : Option Nat)
    (closing? : Option Event) :
    CutTree.Fits cs es (.collection opening parts closing?) (b.close o close?).2.2 := by
  obtain ⟨stop, hspan, hstop, hparts'⟩ := close_of_not_waiting b hwaiting hcovers close?
  rw [← children_close_of_not_waiting b hwaiting close?] at hparts hmissing hparts'
  refine .collection ?_ ?_ ?_ hparts hmissing
  · rw [hspan, hstart]
  · rw [hspan]
    exact hstop
  · rw [hspan]
    exact hparts'

/-- `Builder.close` gives a tree with the events of the open collection, and with the end if there
is one. -/
private theorem Fits.close (h : u.Fits cs es o) (b : Builder) (close? : Option Nat)
    (closing? : Option Event) :
    ∃ t : CutTree, t ≠ .missing ∧ t.isAlias = false ∧ t.Fits cs es (b.close o close?).2.2 ∧
      t.events = u.events ++ closing?.toList := by
  cases hwaiting : o.waiting? with
  | none =>
    refine ⟨.collection u.opening u.parts closing?, nofun, rfl, ?_, ?_⟩
    · exact fits_close hwaiting h.start h.covers h.parts (Or.inl h.present) b close? closing?
    · rw [CutTree.events, events, List.cons_append]
  | some key =>
    -- the missing value is given like any other, but it has no event
    obtain ⟨hwaiting', hclose⟩ := close_of_waiting b hwaiting close?
    obtain ⟨nodes, hnodes⟩ := exists_children_of_waiting? hwaiting
    have hchildren := children_give b o (.missing key.span.stop)
    refine ⟨.collection u.opening (u.parts ++ [.missing]) closing?, nofun, rfl, ?_, ?_⟩
    · rw [hclose]
      refine fits_close hwaiting' ?_ (covers_give b h.covers _) ?_ ?_ _ close? closing?
      · rw [start_give, h.start]
      · rw [hchildren]
        exact List.rel_append h.parts (.cons .missing .nil)
      · refine Or.inr ⟨u.parts, nodes, key, rfl, h.present, ?_⟩
        rw [hchildren, hnodes, List.append_assoc]
        rfl
    · rw [CutTree.events, CutTree.partEvents_append, CutTree.partEvents, CutTree.partEvents,
        CutTree.events, List.append_nil, List.append_nil, events, List.cons_append]

end OpenTree

/-- The events used up so far in a document tell where the builder is in it. -/
def Told (cs : List Char) (es : List Event) : Progress → List Event → Prop
  | .awaiting, past => past = []
  | .building inner outer, past => ∃ us, List.Forall₂ (OpenTree.Fits cs es) us (inner :: outer) ∧
      past = us.reverse.flatMap OpenTree.events
  | .settled none, _ => True
  | .settled (some n), past => ∃ t after, t ≠ .missing ∧ CutTree.Fits cs es t n ∧
      past = t.events ++ after

/-- Each node under an anchor is told by some of the events. -/
def Recorded (cs : List Char) (es : List Event) (b : Builder) : Prop :=
  ∀ a ∈ b.anchors, ∃ t : CutTree, t.isAlias = false ∧ t.events <:+: es ∧ t.Fits cs es a.2

namespace Recorded

variable {cs : List Char} {es : List Event} {b : Builder}

private theorem give (h : Recorded cs es b) (o : Open) (n : Node) :
    Recorded cs es (b.give o n).1 := by
  obtain ⟨ps, hb⟩ := b.exists_give_eq o n
  rw [hb]
  exact h

private theorem close (h : Recorded cs es b) (o : Open) (close? : Option Nat) :
    Recorded cs es (b.close o close?).1 := by
  obtain ⟨ps, hb⟩ := b.exists_close_eq o close?
  rw [hb]
  exact h

private theorem deliver (h : Recorded cs es b) (stack : List Open) (n : Node) :
    Recorded cs es (b.deliver stack n).1 := by
  cases stack with
  | nil => exact h
  | cons o outer => exact h.give o n

/-- `record` adds a node that some of the events tell. -/
private theorem record (h : Recorded cs es b) {t : CutTree} {n : Node} (halias : t.isAlias = false)
    (hevents : t.events <:+: es) (hn : t.Fits cs es n) (anchor : Nat) :
    Recorded cs es (b.record anchor n) := by
  unfold Builder.record
  split
  · exact h
  · exact List.forall_mem_cons.mpr ⟨⟨t, halias, hevents, hn⟩, h⟩

end Recorded

namespace Told

variable {cs : List Char} {es : List Event}

/-- `Told` looks at each open collection. -/
private theorem progressAt_iff {stack : List Open} {past : List Event} :
    Told cs es (progressAt stack) past ↔
      ∃ us, List.Forall₂ (OpenTree.Fits cs es) us stack ∧
        past = us.reverse.flatMap OpenTree.events := by
  cases stack with
  | nil => simp [progressAt, Told]
  | cons inner outer => rfl

/-- `deliver` goes on with the events of the node. -/
private theorem deliver {us : List OpenTree} {stack : List Open}
    (h : List.Forall₂ (OpenTree.Fits cs es) us stack) {t : CutTree} (ht : t ≠ .missing) {n : Node}
    (hn : t.Fits cs es n) (b : Builder) :
    Told cs es (b.deliver stack n).2 (us.reverse.flatMap OpenTree.events ++ t.events) := by
  cases h with
  | nil => exact ⟨t, [], ht, hn, by simp⟩
  | @cons u o us outer hu hus =>
    refine ⟨u.add t :: us, .cons (hu.give ht hn b) hus, ?_⟩
    simp [OpenTree.events_add]

/-- A collection is opened with no parts. -/
private theorem opened {stack : List Open} {past : List Event}
    (h : Told cs es (progressAt stack) past)
    {o : Open} {e : Event} (ho : (OpenTree.mk e []).Fits cs es o) :
    Told cs es (.building o stack) (past ++ [e]) := by
  obtain ⟨us, hus, rfl⟩ := progressAt_iff.mp h
  exact ⟨⟨e, []⟩ :: us, .cons ho hus, by simp [OpenTree.events, CutTree.partEvents]⟩

/-- Behind the root, the tree stays as it is. -/
private theorem skip {root? : Option Node} {past : List Event}
    (h : Told cs es (.settled root?) past) (e : Event) :
    Told cs es (.settled root?) (past ++ [e]) := by
  cases root? with
  | none => trivial
  | some n =>
    obtain ⟨t, after, ht, hn, rfl⟩ := h
    exact ⟨t, after ++ [e], ht, hn, List.append_assoc _ _ _⟩

/-- If the events of the document are among `es`, they tell where the builder is in it, and what was
recorded is told as well. -/
def Follows (cs : List Char) (es : List Event) (s : Builder × Progress) (past : List Event) :
    Prop :=
  past <:+: es → Recorded cs es s.1 ∧ Told cs es s.2 past

/-- `closeInner` records and delivers a collection with its events. -/
private theorem closeInner {b : Builder} {inner : Open} {outer : List Open} {past : List Event}
    (hrecorded : Recorded cs es b) (hpast : Told cs es (.building inner outer) past)
    (close? : Option Nat) (closing? : Option Event) (hes : past ++ closing?.toList <:+: es) :
    Recorded cs es (b.closeInner inner outer close?).1 ∧
      Told cs es (b.closeInner inner outer close?).2 (past ++ closing?.toList) := by
  obtain ⟨_, hus, rfl⟩ := hpast
  cases hus with
  | @cons u _ us _ hu hus =>
    obtain ⟨t, ht, halias, hn, hevents⟩ := hu.close b close? closing?
    -- with its last event the innermost tree is complete, behind those of the outer ones
    have hsplit : (u :: us).reverse.flatMap OpenTree.events ++ closing?.toList =
        us.reverse.flatMap OpenTree.events ++ t.events := by
      rw [List.reverse_cons, List.flatMap_append, List.flatMap_singleton, List.append_assoc,
        hevents]
    rw [hsplit] at hes ⊢
    refine ⟨Recorded.deliver (.record (hrecorded.close _ _) halias ?_ hn _) _ _, ?_⟩
    · exact (List.suffix_append _ _).isInfix.trans hes
    · exact deliver hus ht hn _

/-- Every `Move` keeps to the tree that the events tell. -/
private theorem kept : Kept cs (Follows cs es) := by
  intro s used s' hmove past hpast hes
  obtain ⟨hrecorded, htold⟩ := hpast ((List.prefix_append _ _).isInfix.trans hes)
  cases hmove with
  -- scalars and aliases are leaves of the tree
  | @scalar b stack text style anchor x =>
    obtain ⟨us, hus, rfl⟩ := progressAt_iff.mp htold
    have hevents := (List.suffix_append _ _).isInfix.trans hes
    refine ⟨?_, deliver (t := .leaf _) hus nofun .scalar _⟩
    exact (hrecorded.record (t := .leaf _) rfl hevents .scalar anchor).deliver _ _
  | @copy b stack anchor x n h =>
    obtain ⟨us, hus, rfl⟩ := progressAt_iff.mp htold
    -- the node under the anchor has a tree, and the copy has the parts of that node
    have hmem : (anchor, n) ∈ b.anchors := by
      obtain ⟨front, back, hsplit, -⟩ := List.lookup_eq_some_iff.mp h
      simp [hsplit]
    obtain ⟨t, halias, hevents, hn⟩ := hrecorded _ hmem
    refine ⟨hrecorded.deliver _ _, deliver (t := .leaf _) hus nofun ?_ _⟩
    exact .copy (by cases n <;> rfl) halias hevents hn (by cases n <;> rfl)
  | @unknown b stack anchor x h =>
    obtain ⟨us, hus, rfl⟩ := progressAt_iff.mp htold
    refine ⟨?_, deliver (t := .leaf _) hus nofun (.unknown rfl rfl) _⟩
    apply Recorded.deliver
    exact hrecorded
  | openSequence =>
    exact ⟨hrecorded, opened htold ⟨rfl, ⟨Nat.le_refl _, by simp⟩, .nil, by simp⟩⟩
  | openMapping =>
    exact ⟨hrecorded, opened htold ⟨rfl, ⟨Nat.le_refl _, by simp⟩, .nil, by simp⟩⟩
  | @close b inner outer e h => exact closeInner hrecorded htold _ (some e) hes
  | cut =>
    -- no event is used up, so the tree has no end
    exact closeInner hrecorded htold none none hes
  | settle => exact ⟨hrecorded, trivial⟩
  | skip => exact ⟨hrecorded, htold.skip _⟩

end Told

/-! ## Whole runs -/

namespace Builder

variable {cs : List Char} {es past : List Event}

/-- Among the events so far is the start of a document with the given start and progress. -/
def Tells (cs : List Char) (es past : List Event) (start : Nat) (p : Progress) : Prop :=
  ∃ before opening inside, past = before ++ opening :: inside ∧ opening.kind = .documentStart ∧
    start = (spanOf cs opening.extent).start ∧ Told cs es p inside

/-- An event behind the root changes nothing. -/
private theorem Tells.skip {start : Nat} {root? : Option Node}
    (h : Tells cs es past start (.settled root?)) (e : Event) :
    Tells cs es (past ++ [e]) start (.settled root?) := by
  obtain ⟨before, opening, inside, rfl, hkind, hstart, htold⟩ := h
  exact ⟨before, opening, inside ++ [e], by simp, hkind, hstart, htold.skip e⟩

/-- `Builder.settle` at the end of a document keeps to the tree. -/
private theorem Tells.settle {b : Builder} {start : Nat} {p : Progress}
    (h : Tells cs es past start p) (hrecorded : Recorded cs es b) (hes : past <:+: es) :
    Recorded cs es (b.settle p).1 ∧ Tells cs es past start (.settled (b.settle p).2) := by
  obtain ⟨before, opening, inside, rfl, hkind, hstart, htold⟩ := h
  have hinside : inside <:+: es :=
    ((List.suffix_cons _ _).trans (List.suffix_append _ _)).isInfix.trans hes
  have hkept : Kept cs (Told.Follows cs es) := Told.kept
  obtain ⟨hrecorded', htold'⟩ := hkept.settle (b := b) (fun _ => ⟨hrecorded, htold⟩) hinside
  exact ⟨hrecorded', before, opening, inside, rfl, hkind, hstart, htold'⟩

/-- `Builder.progress` at an event inside a document keeps to the tree. -/
private theorem Tells.progress {b : Builder} {start : Nat} {p : Progress} {e : Event}
    (h : Tells cs es past start p) (hrecorded : Recorded cs es b) (hes : past ++ [e] <:+: es) :
    Recorded cs es (b.progress cs e p).1 ∧
      Tells cs es (past ++ [e]) start (b.progress cs e p).2 := by
  obtain ⟨before, opening, inside, rfl, hkind, hstart, htold⟩ := h
  have hinside : inside ++ [e] <:+: es := by
    rw [List.append_assoc, List.cons_append] at hes
    exact ((List.suffix_cons _ _).trans (List.suffix_append _ _)).isInfix.trans hes
  have hkept : Kept cs (Told.Follows cs es) := Told.kept
  obtain ⟨hrecorded', htold'⟩ := hkept.progress (b := b) e (fun _ => ⟨hrecorded, htold⟩) hinside
  exact ⟨hrecorded', before, opening, inside ++ [e], by simp, hkind, hstart, htold'⟩

/-- A document that is opened is awaiting its root. -/
private theorem tells_opened {e : Event} {d : OpenDocument} (h : opened? cs e = some d) :
    Tells cs es (past ++ [e]) d.start d.progress := by
  obtain ⟨kind, x⟩ := e
  cases kind with
  | documentStart =>
    cases h
    exact ⟨past, _, [], rfl, rfl, rfl, rfl⟩
  | _ => cases h

/-- The events so far tell all documents of the builder, finished or not, and what it recorded. -/
structure ToldBy (cs : List Char) (es past : List Event) (b : Builder) : Prop where
  documents : ∀ d ∈ b.documents, ∃ start root? stop?, d = documentOf start root? stop? ∧
    Tells cs es past start (.settled root?)
  current : ∀ d, b.current? = some d → Tells cs es past d.start d.progress
  recorded : Recorded cs es b

/-- Finished documents stay told. -/
private theorem ToldBy.documents_skip {b : Builder} (h : ToldBy cs es past b) (e : Event)
    {d : Document} (hd : d ∈ b.documents) : ∃ start root? stop?, d = documentOf start root? stop? ∧
      Tells cs es (past ++ [e]) start (.settled root?) := by
  obtain ⟨start, root?, stop?, rfl, htells⟩ := h.documents d hd
  exact ⟨start, root?, stop?, rfl, htells.skip e⟩

/-- One `Builder.step` keeps to what the events tell. -/
private theorem ToldBy.step {b : Builder} {e : Event} (h : ToldBy cs es past b)
    (hes : past ++ [e] <:+: es) : ToldBy cs es (past ++ [e]) (step cs b e) := by
  cases hb : b.current? with
  | none =>
    rw [step_outside cs hb]
    exact ⟨fun d hd => h.documents_skip e hd, fun d hd => tells_opened hd, h.recorded⟩
  | some d =>
    have hd := h.current d hb
    cases he : e.kind.endsDocument with
    | true =>
      -- the document that was open is settled in front of the event
      obtain ⟨hrecorded, hsettled⟩ :=
        hd.settle h.recorded ((List.prefix_append _ _).isInfix.trans hes)
      rw [step_ends cs hb he, finish_eq]
      refine ⟨List.forall_mem_cons.mpr ⟨?_, fun d' hd' => h.documents_skip e hd'⟩,
        fun d' hd' => tells_opened hd', hrecorded⟩
      exact ⟨_, _, _, rfl, hsettled.skip e⟩
    | false =>
      obtain ⟨hrecorded, hprogress⟩ := hd.progress h.recorded hes
      rw [step_inside cs hb he]
      refine ⟨?_, ?_, hrecorded⟩
      · intro d' hd'
        rw [progress_documents] at hd'
        exact h.documents_skip e hd'
      · rintro _ ⟨⟩
        exact hprogress

/-- Any number of steps keeps to what the events tell. -/
private theorem toldBy_foldl {b : Builder} (h : ToldBy cs es past b) {more : List Event}
    (hes : past ++ more <:+: es) :
    ToldBy cs es (past ++ more) (more.foldl (Builder.step cs) b) := by
  induction more generalizing b past with
  | nil =>
    rw [List.append_nil]
    exact h
  | cons e more ih =>
    rw [List.append_cons] at hes ⊢
    exact ih (h.step ((List.prefix_append _ _).isInfix.trans hes)) hes

/-- Every finished document with a root is told by a tree behind the document's start. -/
theorem exists_cutTree {d : Document} (hd : d ∈ (run cs es).documents) {root : Node}
    (hroot : d.root? = some root) :
    ∃ t before opening after, t ≠ .missing ∧ CutTree.Fits cs es t root ∧
      es = before ++ opening :: (t.events ++ after) ∧ opening.kind = .documentStart ∧
      d.range.start = (spanOf cs opening.extent).start ∧ root.span.stop ≤ d.range.contentEnd ∧
      d.range.contentEnd ≤ d.range.stop := by
  have hinitial : ToldBy cs es [] initial := ⟨nofun, nofun, nofun⟩
  have htold : ToldBy cs es es (es.foldl (Builder.step cs) initial) :=
    toldBy_foldl hinitial (List.infix_refl es)
  have hdocument : ∃ start root? stop?, d = documentOf start root? stop? ∧
      Tells cs es es start (.settled root?) := by
    unfold run done at hd
    split at hd
    · -- the events end inside a document
      next current hcurrent =>
      rw [finish_eq] at hd
      rcases List.mem_cons.mp hd with rfl | hd
      · exact ⟨_, _, _, rfl, ((htold.current current hcurrent).settle htold.recorded
          (List.infix_refl es)).2⟩
      · exact htold.documents d hd
    · exact htold.documents d hd
  obtain ⟨start, root?, stop?, rfl, before, opening, inside, hes, hkind, hstart, hinside⟩ :=
    hdocument
  have hroot' : root? = some root := hroot
  subst hroot'
  obtain ⟨t, after, ht, hn, rfl⟩ := hinside
  exact ⟨t, before, opening, after, ht, hn, hes, hkind, hstart, Nat.le_max_left _ _,
    (ordered_documentOf start (some root) stop?).le_stop⟩

end Builder

end PrimitiveDesk.Yaml
