import PrimitiveDesk.Proofs.Text.CharBoundary
import PrimitiveDesk.Proofs.Yaml.BuilderMoves

/-!
# The offsets of built documents

The builder invents no offset. Every end of a span that it gives to a node, a document or a problem
is the offset of some character of the text, whatever the events are; `Builder.Within` is this
invariant for the state of the builder, with any property of offsets in place of "the offset of a
character". Every move of the builder keeps it, hence `Builder.step` does (`Builder.Within.step`),
and so the offsets of a stream are character boundaries of its text (`Stream.offsets_ofEvents`).
-/

namespace PrimitiveDesk

/-- Both ends of a span. -/
def Span.offsets (s : Span) : List Nat := [s.start, s.stop]

/-- Both ends of a span have the property. -/
def Span.Within (P : Nat → Prop) (s : Span) : Prop := P s.start ∧ P s.stop

namespace Yaml

open Text

mutual

/-- Both ends of the spans of a node and of all nodes in it. -/
def Node.offsets : Node → List Nat
  | .scalar _ s => s.offsets
  | .sequence items s => s.offsets ++ itemOffsets items
  | .mapping entries s => s.offsets ++ entryOffsets entries

/-- The offsets of the items of a sequence. -/
def Node.itemOffsets : List Node → List Nat
  | [] => []
  | n :: rest => offsets n ++ itemOffsets rest

/-- The offsets of the keys and values of a mapping. -/
def Node.entryOffsets : Node.Entries → List Nat
  | [] => []
  | (k, v) :: rest => offsets k ++ offsets v ++ entryOffsets rest

end

/-- The offsets of a document's nodes and of its range. -/
def Document.offsets (d : Document) : List Nat :=
  d.root?.elim [] Node.offsets ++ [d.range.start, d.range.contentEnd, d.range.stop]

/-- The offsets of the documents and problems of a stream. -/
def Stream.offsets (s : Stream) : List Nat :=
  s.documents.flatMap Document.offsets ++ s.problems.flatMap (·.span.offsets)

variable {P : Nat → Prop}

/-! ## Nodes -/

namespace Node

/-- All offsets of a node have the property. -/
def Within (P : Nat → Prop) (n : Node) : Prop := ∀ o ∈ n.offsets, P o

private theorem within_scalar {v : Scalar} {s : Span} : (scalar v s).Within P ↔ s.Within P := by
  simp [Within, offsets, Span.offsets, Span.Within]

private theorem forall_mem_itemOffsets {items : List Node} :
    (∀ o ∈ itemOffsets items, P o) ↔ ∀ n ∈ items, n.Within P := by
  induction items with
  | nil => simp [itemOffsets]
  | cons n items ih =>
    rw [itemOffsets, List.forall_mem_append, List.forall_mem_cons, ih, Within]

/-- The offsets of entries are those of each key and value. -/
private theorem forall_mem_entryOffsets {entries : Entries} :
    (∀ o ∈ entryOffsets entries, P o) ↔ ∀ e ∈ entries, e.1.Within P ∧ e.2.Within P := by
  induction entries with
  | nil => simp [entryOffsets]
  | cons e entries ih =>
    obtain ⟨k, v⟩ := e
    rw [entryOffsets, List.forall_mem_append, List.forall_mem_append, List.forall_mem_cons, ih,
      Within, Within]

private theorem within_sequence {items : List Node} {s : Span} :
    (sequence items s).Within P ↔ s.Within P ∧ ∀ n ∈ items, n.Within P := by
  rw [Within, offsets, List.forall_mem_append, forall_mem_itemOffsets]
  simp [Span.offsets, Span.Within]

private theorem within_mapping {entries : Entries} {s : Span} :
    (mapping entries s).Within P ↔
      s.Within P ∧ ∀ e ∈ entries, e.1.Within P ∧ e.2.Within P := by
  rw [Within, offsets, List.forall_mem_append, forall_mem_entryOffsets]
  simp [Span.offsets, Span.Within]

private theorem Within.span {n : Node} (h : n.Within P) : n.span.Within P := by
  cases n with
  | scalar v s => exact within_scalar.mp h
  | sequence items s => exact (within_sequence.mp h).1
  | mapping entries s => exact (within_mapping.mp h).1

/-- A copy brings in the offsets of its own place only. -/
private theorem Within.withSpan {n : Node} (h : n.Within P) {s : Span} (hs : s.Within P) :
    (n.withSpan s).Within P := by
  cases n with
  | scalar v t => exact within_scalar.mpr hs
  | sequence items t => exact within_sequence.mpr ⟨hs, (within_sequence.mp h).2⟩
  | mapping entries t => exact within_mapping.mpr ⟨hs, (within_mapping.mp h).2⟩

private theorem within_missing {n : Nat} (h : P n) : (missing n).Within P :=
  within_scalar.mpr ⟨h, h⟩

end Node

/-! ## The state of the builder -/

/-- All offsets of an open collection have the property. -/
def Open.Within (P : Nat → Prop) : Open → Prop
  | .sequence start _ _ stop items => P start ∧ P stop ∧ ∀ n ∈ items, n.Within P
  | .mapping start _ _ stop entries key? =>
    P start ∧ P stop ∧ (∀ e ∈ entries, e.1.Within P ∧ e.2.Within P) ∧ ∀ k ∈ key?, k.Within P

/-- All offsets of a document's collections, or of its root, have the property. -/
def Progress.Within (P : Nat → Prop) : Progress → Prop
  | .awaiting => True
  | .building inner outer => ∀ o ∈ inner :: outer, o.Within P
  | .settled root? => ∀ n ∈ root?, n.Within P

/-- All offsets of a finished document have the property. -/
def Document.Within (P : Nat → Prop) (d : Document) : Prop := ∀ o ∈ d.offsets, P o

namespace Builder

/-- All offsets that the builder holds have the property. -/
structure Within (P : Nat → Prop) (b : Builder) : Prop where
  documents : ∀ d ∈ b.documents, d.Within P
  current : ∀ d ∈ b.current?, P d.start ∧ d.progress.Within P
  anchors : ∀ a ∈ b.anchors, a.2.Within P
  problems : ∀ p ∈ b.problems, p.span.Within P

/-- A weaker property holds as well. -/
theorem Within.mono {b : Builder} (h : b.Within P) {Q : Nat → Prop} (hPQ : ∀ n, P n → Q n) :
    b.Within Q := by
  have hnode {n : Node} (hn : n.Within P) : n.Within Q := fun o ho => hPQ o (hn o ho)
  have hopen {o : Open} (ho : o.Within P) : o.Within Q := by
    cases o with
    | sequence start flow anchor stop items =>
      exact ⟨hPQ _ ho.1, hPQ _ ho.2.1, fun n hn => hnode (ho.2.2 n hn)⟩
    | mapping start flow anchor stop entries key? =>
      exact ⟨hPQ _ ho.1, hPQ _ ho.2.1,
        fun e he => ⟨hnode (ho.2.2.1 e he).1, hnode (ho.2.2.1 e he).2⟩,
        fun k hk => hnode (ho.2.2.2 k hk)⟩
  refine ⟨fun d hd o ho => hPQ o (h.documents d hd o ho),
    fun d hd => ⟨hPQ _ (h.current d hd).1, ?_⟩, fun a ha => hnode (h.anchors a ha),
    fun p hp => ⟨hPQ _ (h.problems p hp).1, hPQ _ (h.problems p hp).2⟩⟩
  have hprogress := (h.current d hd).2
  cases hcase : d.progress with
  | awaiting => trivial
  | building inner outer =>
    rw [hcase] at hprogress
    exact fun o ho => hopen (hprogress o ho)
  | settled root? =>
    rw [hcase] at hprogress
    exact fun n hn => hnode (hprogress n hn)

theorem within_initial : initial.Within P where
  documents := by simp [initial]
  current := by simp [initial]
  anchors := by simp [initial]
  problems := by simp [initial]

private theorem max_within {m n : Nat} (hm : P m) (hn : P n) : P (max m n) := by
  rw [Nat.max_def]
  split
  · exact hn
  · exact hm

/-- A problem brings in the offsets of its span. -/
private theorem Within.addProblem {b : Builder} (hb : b.Within P) {p : Problem}
    (hp : p.span.Within P) :
    { b with problems := p :: b.problems }.Within P where
  documents := hb.documents
  current := hb.current
  anchors := hb.anchors
  problems := List.forall_mem_cons.mpr ⟨hp, hb.problems⟩

/-- `record` adds the offsets of a node. -/
private theorem Within.record {b : Builder} (hb : b.Within P) (anchor : Nat) {n : Node}
    (hn : n.Within P) : (b.record anchor n).Within P := by
  unfold Builder.record
  split
  · exact hb
  · exact ⟨hb.documents, hb.current, List.forall_mem_cons.mpr ⟨hn, hb.anchors⟩, hb.problems⟩

/-- `addEntry` reports a problem at the key at most. -/
private theorem Within.addEntry {b : Builder} (hb : b.Within P) (entries : Node.Entries)
    {key : Node} (hkey : key.Within P) (value : Node) :
    (b.addEntry entries key value).1.Within P := by
  unfold Builder.addEntry
  cases key.str? with
  | none => exact hb
  | some name =>
    dsimp only
    split
    · exact hb.addProblem hkey.span
    · exact hb

/-- `give` ends a collection with the node, unless it ended behind it before. -/
private theorem Within.give {b : Builder} (hb : b.Within P) {o : Open} (ho : o.Within P) {n : Node}
    (hn : n.Within P) : (b.give o n).1.Within P ∧ (b.give o n).2.Within P := by
  cases o with
  | sequence start flow anchor stop items =>
    obtain ⟨hstart, hstop, hitems⟩ := ho
    exact ⟨hb, hstart, max_within hstop hn.span.2, List.forall_mem_cons.mpr ⟨hn, hitems⟩⟩
  | mapping start flow anchor stop entries key? =>
    obtain ⟨hstart, hstop, hentries, hkey⟩ := ho
    cases key? with
    | none =>
      exact ⟨hb, hstart, hstop, hentries, fun k hk => Option.some.inj hk ▸ hn⟩
    | some key =>
      have hkey := hkey key rfl
      refine ⟨hb.addEntry entries hkey n, hstart, ?_, ?_, by simp⟩
      · exact max_within (max_within hstop hkey.span.2) hn.span.2
      · exact List.forall_mem_cons.mpr ⟨⟨hkey, hn⟩, hentries⟩

/-- Where a collection ends: behind its last part, or with its closing bracket. -/
private theorem ending_within {close? : Option Nat} {stop : Nat} (flow : Bool) :
    (∀ c ∈ close?, P c) → P stop →
      P (match close? with
        | some c => if flow then max stop c else stop
        | none => stop) := by
  intro hclose hstop
  cases close? with
  | none => exact hstop
  | some c =>
    cases flow with
    | true => exact max_within hstop (hclose c rfl)
    | false => exact hstop

/-- `close` ends a collection with its last part or with its bracket. -/
private theorem Within.close {b : Builder} (hb : b.Within P) {o : Open} (ho : o.Within P)
    {close? : Option Nat} (hclose : ∀ c ∈ close?, P c) :
    (b.close o close?).1.Within P ∧ (b.close o close?).2.2.Within P := by
  cases o with
  | sequence start flow anchor stop items =>
    obtain ⟨hstart, hstop, hitems⟩ := ho
    refine ⟨hb, Node.within_sequence.mpr ⟨⟨hstart, ending_within flow hclose hstop⟩, ?_⟩⟩
    exact fun n hn => hitems n (List.mem_reverse.mp hn)
  | mapping start flow anchor stop entries key? =>
    cases key? with
    | none =>
      obtain ⟨hstart, hstop, hentries, -⟩ := ho
      refine ⟨hb, Node.within_mapping.mpr ⟨⟨hstart, ending_within flow hclose hstop⟩, ?_⟩⟩
      exact fun e he => hentries e (List.mem_reverse.mp he)
    | some key =>
      -- the missing value stands where its key ends
      have hkey := ho.2.2.2 key rfl
      obtain ⟨hb', hstart, hstop, hentries, -⟩ := hb.give ho (Node.within_missing hkey.span.2)
      refine ⟨hb', Node.within_mapping.mpr ⟨⟨hstart, ending_within flow hclose hstop⟩, ?_⟩⟩
      exact fun e he => hentries e (List.mem_reverse.mp he)

/-- `deliver` adds the offsets of a node. -/
private theorem Within.deliver {b : Builder} (hb : b.Within P) {stack : List Open}
    (hstack : ∀ o ∈ stack, o.Within P) {n : Node} (hn : n.Within P) :
    (b.deliver stack n).1.Within P ∧ (b.deliver stack n).2.Within P := by
  cases stack with
  | nil => exact ⟨hb, fun m hm => Option.some.inj hm ▸ hn⟩
  | cons o outer =>
    obtain ⟨ho, houter⟩ := List.forall_mem_cons.mp hstack
    obtain ⟨hb', ho'⟩ := hb.give ho hn
    exact ⟨hb', List.forall_mem_cons.mpr ⟨ho', houter⟩⟩

/-- `closeInner` adds the offsets of the closed collection. -/
private theorem Within.closeInner {b : Builder} (hb : b.Within P) {inner : Open} {outer : List Open}
    (hopen : ∀ o ∈ inner :: outer, o.Within P) {close? : Option Nat} (hclose : ∀ c ∈ close?, P c) :
    (b.closeInner inner outer close?).1.Within P ∧
      (b.closeInner inner outer close?).2.Within P := by
  obtain ⟨hinner, houter⟩ := List.forall_mem_cons.mp hopen
  obtain ⟨hb', hn⟩ := hb.close hinner hclose
  exact (hb'.record _ hn).deliver houter hn

private theorem forall_mem_of_progressAt {stack : List Open} (h : (progressAt stack).Within P) :
    ∀ o ∈ stack, o.Within P := by
  cases stack with
  | nil => exact List.forall_mem_nil _
  | cons inner outer => exact h

/-- Every move brings in the offsets of the events that it uses up. -/
private theorem kept_within (cs : List Char) : Kept cs fun s past =>
    (∀ e ∈ past, (spanOf cs e.extent).Within P) → s.1.Within P ∧ s.2.Within P := by
  intro s es s' hmove past h hpast
  obtain ⟨hfront, hes⟩ := List.forall_mem_append.mp hpast
  obtain ⟨hb, hp⟩ := h hfront
  cases hmove with
  | @scalar b stack text style anchor x =>
    have he := hes _ List.mem_cons_self
    have hn : (scalarNode cs text style x).Within P :=
      Node.within_scalar.mpr ⟨he.1, max_within he.2 he.1⟩
    exact (hb.record _ hn).deliver (forall_mem_of_progressAt hp) hn
  | copy hlookup =>
    -- a copy has the offsets of a node that was recorded
    obtain ⟨front, back, hsplit, -⟩ := List.lookup_eq_some_iff.mp hlookup
    have hn := hb.anchors _ (hsplit ▸ List.mem_append_right front List.mem_cons_self)
    exact hb.deliver (forall_mem_of_progressAt hp) (hn.withSpan (hes _ List.mem_cons_self))
  | unknown hlookup =>
    have he := hes _ List.mem_cons_self
    exact (hb.addProblem he).deliver (forall_mem_of_progressAt hp) (Node.within_scalar.mpr he)
  | openSequence =>
    have hstart := (hes _ List.mem_cons_self).1
    exact ⟨hb, List.forall_mem_cons.mpr
      ⟨⟨hstart, hstart, by simp⟩, forall_mem_of_progressAt hp⟩⟩
  | openMapping =>
    have hstart := (hes _ List.mem_cons_self).1
    exact ⟨hb, List.forall_mem_cons.mpr
      ⟨⟨hstart, hstart, by simp, by simp⟩, forall_mem_of_progressAt hp⟩⟩
  | close hends =>
    exact hb.closeInner hp fun c hc => Option.some.inj hc ▸ (hes _ List.mem_cons_self).2
  | cut => exact hb.closeInner hp (by simp)
  | settle => exact ⟨hb, by simp [Progress.Within]⟩
  | skip => exact ⟨hb, hp⟩

/-- `finish` ends a document with its root, its start or its end marker. -/
theorem Within.finish {b : Builder} (hb : b.Within P) {d : OpenDocument} (hstart : P d.start)
    (hd : d.progress.Within P) {stop? : Option Nat} (hstop : ∀ s ∈ stop?, P s) :
    (b.finish d stop?).Within P := by
  -- closing what is open uses up no event
  obtain ⟨hb', hroot⟩ := (kept_within []).settle (fun _ => ⟨hb, hd⟩) (List.forall_mem_nil _)
  rw [finish_eq]
  refine ⟨List.forall_mem_cons.mpr ⟨?_, hb.documents⟩, by simp, hb'.anchors, hb'.problems⟩
  generalize (b.settle d.progress).2 = root? at hroot ⊢
  -- the three offsets of the range, and those of the nodes
  have hcontent : P (root?.elim d.start fun n => max n.span.stop d.start) := by
    cases root? with
    | none => exact hstart
    | some n => exact max_within (hroot n rfl).span.2 hstart
  have hend : P (documentOf d.start root? stop?).range.stop := by
    cases stop? with
    | none => exact hcontent
    | some stop => exact max_within hcontent (hstop stop rfl)
  have hnodes : ∀ o ∈ root?.elim [] Node.offsets, P o := by
    cases root? with
    | none => simp
    | some n => exact hroot n rfl
  refine List.forall_mem_append.mpr ⟨hnodes, ?_⟩
  simp only [List.forall_mem_cons]
  exact ⟨hstart, hcontent, hend, by simp⟩

/-! ## Events -/

section Events

variable {cs : List Char} {e : Event} (he : (spanOf cs e.extent).Within P)

include he

private theorem within_opened? :
    ∀ d ∈ opened? cs e, P d.start ∧ d.progress.Within P := by
  intro d hd
  unfold opened? at hd
  split at hd
  · cases hd
    exact ⟨he.1, trivial⟩
  · cases hd

/-- `step` brings in the offsets of the event only. -/
theorem Within.step {b : Builder} (hb : b.Within P) : (step cs b e).Within P := by
  cases hcurrent : b.current? with
  | none =>
    rw [step_outside cs hcurrent]
    exact ⟨hb.documents, within_opened? he, hb.anchors, hb.problems⟩
  | some d =>
    obtain ⟨hstart, hd⟩ := hb.current d hcurrent
    cases hends : e.kind.endsDocument with
    | true =>
      -- an end marker has the offsets of its event
      have hstop : ∀ s ∈ markerStop? cs e, P s := by
        intro s hs
        unfold markerStop? at hs
        split at hs
        · exact Option.some.inj hs ▸ he.2
        · cases hs
      have hfinish := hb.finish hstart hd hstop
      rw [step_ends cs hcurrent hends]
      exact ⟨hfinish.documents, within_opened? he, hfinish.anchors, hfinish.problems⟩
    | false =>
      have hpast : (∀ e ∈ ([] : List Event), (spanOf cs e.extent).Within P) →
          b.Within P ∧ d.progress.Within P := fun _ => ⟨hb, hd⟩
      obtain ⟨hb', hp⟩ := (kept_within cs).progress e hpast (List.forall_mem_singleton.mpr he)
      rw [step_inside cs hcurrent hends]
      refine ⟨hb'.documents, fun d' hd' => ?_, hb'.anchors, hb'.problems⟩
      cases hd'
      exact ⟨hstart, hp⟩

end Events

section Text

variable {cs : List Char} (hcs : ∀ i, P (byteOffset cs i))

include hcs

private theorem Within.foldl_step {b : Builder} (hb : b.Within P) (events : List Event) :
    (events.foldl (Builder.step cs) b).Within P := by
  induction events generalizing b with
  | nil => exact hb
  | cons e events ih => exact ih (hb.step ⟨hcs _, hcs _⟩)

/-- `run` has offsets of the text only. -/
private theorem within_run (events : List Event) : (run cs events).Within P := by
  have hb := within_initial.foldl_step hcs events
  unfold run done
  split
  · next d hcurrent =>
    obtain ⟨hstart, hd⟩ := hb.current d hcurrent
    exact hb.finish hstart hd (by simp)
  · exact hb

end Text

end Builder

/-- The offsets of a stream are character boundaries of its text, if those of the problems found
before are. -/
theorem Stream.offsets_ofEvents (text : String) (events : List Event) {problems : List Problem}
    (hproblems : ∀ p ∈ problems, p.span.Within (IsCharBoundary text)) :
    ∀ o ∈ (Stream.ofEvents text events problems).offsets, IsCharBoundary text o := by
  have hrun := Builder.within_run (isCharBoundary_byteOffset text) events
  rw [Stream.ofEvents_eq_run, Stream.offsets, List.forall_mem_append]
  simp only [List.mem_flatMap, List.mem_reverse, List.mem_append]
  constructor
  · rintro o ⟨d, hd, ho⟩
    exact hrun.documents d hd o ho
  · rintro o ⟨p, hp, ho⟩
    have hspan := hp.elim (hproblems p) (hrun.problems p)
    simp only [Span.offsets, List.mem_cons, List.not_mem_nil, or_false] at ho
    obtain rfl | rfl := ho
    · exact hspan.1
    · exact hspan.2

/-- A fault is shown at a character of the text, or at its end. -/
theorem Stream.within_faultProblem (text : String) (e : ScanError) :
    (faultProblem text e).span.Within (IsCharBoundary text) :=
  ⟨isCharBoundary_byteOffset text _, (isCharBoundary_byteOffset text _).nextBoundary⟩

end Yaml

end PrimitiveDesk
