import PrimitiveDesk.Proofs.Yaml.BuilderStep
import PrimitiveDesk.Proofs.Yaml.EventTree

/-!
# Building inverts telling

The builder reads the events of a tree back to the node that the tree means. The events of a tree
are always met with some collections open around it; they leave these as they are and deliver one
node to the innermost of them (`Builder.taken`). So there is one equation of `Builder.step` for each
kind of event, and `EventTree.foldl_step_events` puts them together along the tree.
-/

namespace PrimitiveDesk.Yaml

open Text

namespace Builder

/-! ## One event inside a document -/

/-- A node is delivered inside the document that starts at `start`. -/
def taken (b : Builder) (start : Nat) (stack : List Open) (n : Node) : Builder :=
  { (b.deliver stack n).1 with current? := some ⟨start, (b.deliver stack n).2⟩ }

variable (cs : List Char) {b : Builder} {start : Nat} {stack : List Open}

/-- `step` records a scalar under its anchor and delivers it. -/
private theorem step_scalar (hb : b.current? = some ⟨start, progressAt stack⟩) (text : String)
    (style : Style) (anchor : Nat) (e : Extent) :
    step cs b ⟨.scalar text style anchor, e⟩ =
      (b.record anchor (scalarNode cs text style e)).taken start stack
        (scalarNode cs text style e) := by
  rw [step_inside cs hb rfl, progress_progressAt cs b rfl fun o => by cases o <;> rfl]
  rfl

/-- `step` delivers for an alias a copy of the node that was recorded last under its anchor. -/
private theorem step_alias_of_some (hb : b.current? = some ⟨start, progressAt stack⟩) {anchor : Nat}
    {n : Node} (hn : b.anchors.lookup anchor = some n) (e : Extent) :
    step cs b ⟨.alias anchor, e⟩ = b.taken start stack (n.withSpan (spanOf cs e)) := by
  have hnode : node cs b stack ⟨.alias anchor, e⟩ =
      some (b.deliver stack (n.withSpan (spanOf cs e))) := by
    simp only [node, hn]
  rw [step_inside cs hb rfl, progress_progressAt cs b hnode fun o => by cases o <;> rfl]
  rfl

/-- `step` finds an alias of an anchor without a node a problem, and delivers an empty scalar. -/
private theorem step_alias_of_none (hb : b.current? = some ⟨start, progressAt stack⟩) {anchor : Nat}
    (hn : b.anchors.lookup anchor = none) (e : Extent) :
    step cs b ⟨.alias anchor, e⟩ =
      { b with problems := ⟨.unknownAlias, spanOf cs e⟩ :: b.problems }.taken start stack
        (.plain "" (spanOf cs e)) := by
  have hnode : node cs b stack ⟨.alias anchor, e⟩ =
      some ({ b with problems := ⟨.unknownAlias, spanOf cs e⟩ :: b.problems }.deliver stack
        (.plain "" (spanOf cs e))) := by
    simp only [node, hn]
  rw [step_inside cs hb rfl, progress_progressAt cs b hnode fun o => by cases o <;> rfl]
  rfl

/-- `step` opens a sequence inside what is open already. -/
private theorem step_sequenceStart (hb : b.current? = some ⟨start, progressAt stack⟩) (anchor : Nat)
    (e : Extent) :
    ∃ flow, step cs b ⟨.sequenceStart anchor, e⟩ =
      { b with current? := some ⟨start, progressAt (.sequence (byteOffset cs e.start.index) flow
        anchor (byteOffset cs e.start.index) [] :: stack)⟩ } := by
  refine ⟨startsWith cs (byteOffset cs e.start.index) '[', ?_⟩
  rw [step_inside cs hb rfl, progress_progressAt cs b rfl fun o => by cases o <;> rfl]
  rfl

/-- `step` opens a mapping inside what is open already. -/
private theorem step_mappingStart (hb : b.current? = some ⟨start, progressAt stack⟩) (anchor : Nat)
    (e : Extent) :
    ∃ flow, step cs b ⟨.mappingStart anchor, e⟩ =
      { b with current? := some ⟨start, progressAt (.mapping (byteOffset cs e.start.index) flow
        anchor (byteOffset cs e.start.index) [] none :: stack)⟩ } := by
  refine ⟨startsWith cs (byteOffset cs e.start.index) '\x7b', ?_⟩
  rw [step_inside cs hb rfl, progress_progressAt cs b rfl fun o => by cases o <;> rfl]
  rfl

/-- `step` closes a sequence at its end, records it and delivers it. -/
private theorem step_sequenceEnd {opening anchor stop : Nat} {flow : Bool} {items : List Node}
    (hb : b.current? =
      some ⟨start, progressAt (.sequence opening flow anchor stop items :: stack)⟩) (e : Extent) :
    ∃ stop', step cs b ⟨.sequenceEnd, e⟩ =
      (b.record anchor (.sequence items.reverse ⟨opening, stop'⟩)).taken start stack
        (.sequence items.reverse ⟨opening, stop'⟩) := by
  refine ⟨if flow then max stop (spanOf cs e).stop else stop, ?_⟩
  rw [step_inside cs hb rfl]
  dsimp only [progressAt, progress]
  rw [offer_of_ends cs b rfl]
  rfl

/-- `step` closes a mapping at its end, records it and delivers it. -/
private theorem step_mappingEnd {opening anchor stop : Nat} {flow : Bool} {entries : Node.Entries}
    (hb : b.current? =
      some ⟨start, progressAt (.mapping opening flow anchor stop entries none :: stack)⟩)
    (e : Extent) :
    ∃ stop', step cs b ⟨.mappingEnd, e⟩ =
      (b.record anchor (.mapping entries.reverse ⟨opening, stop'⟩)).taken start stack
        (.mapping entries.reverse ⟨opening, stop'⟩) := by
  refine ⟨if flow then max stop (spanOf cs e).stop else stop, ?_⟩
  rw [step_inside cs hb rfl]
  dsimp only [progressAt, progress]
  rw [offer_of_ends cs b rfl]
  rfl

/-- `scalarNode` drops the text of a scalar if it is a plain `~` that is not in the source. -/
private theorem scalarNode_eq (text : String) (style : Style) (e : Extent) :
    scalarNode cs text style e =
      .scalar ⟨if style.kind == .plain && text == unwrittenText &&
          !((slice? cs (scalarSpan cs e)).map (·.contains '~')).getD false then "" else text,
        style.kind⟩ (scalarSpan cs e) := by
  cases style <;> rfl

/-- `scalarNode` gives an unwritten scalar an empty text. -/
private theorem scalarNode_of_unwritten {cs : List Char} {text : String} {style : Style}
    {e : Extent} (h : Unwritten cs text style e) :
    scalarNode cs text style e = .scalar ⟨"", style.kind⟩ (scalarSpan cs e) := by
  obtain ⟨rfl, rfl, hpart⟩ := h
  have hwritten : ((slice? cs (scalarSpan cs e)).map (·.contains '~')).getD false = false := by
    cases hs : slice? cs (scalarSpan cs e) with
    | none => rfl
    | some part => simpa using hpart part hs
  rw [scalarNode_eq, hwritten]
  rfl

/-- `scalarNode` leaves every other scalar its text. -/
private theorem scalarNode_of_not_unwritten {cs : List Char} {text : String} {style : Style}
    {e : Extent} (h : ¬Unwritten cs text style e) :
    scalarNode cs text style e = .scalar ⟨text, style.kind⟩ (scalarSpan cs e) := by
  have hplain : style.kind = .plain → style = .plain := by cases style <;> decide
  rw [scalarNode_eq, if_neg]
  intro hcond
  rw [Bool.and_eq_true, Bool.and_eq_true, beq_iff_eq, beq_iff_eq, Bool.not_eq_true'] at hcond
  obtain ⟨⟨hstyle, htext⟩, hwritten⟩ := hcond
  refine h ⟨hplain hstyle, htext, ?_⟩
  intro part hpart hmem
  rw [hpart] at hwritten
  simp [hmem] at hwritten

/-! ## What a run inside a document leaves -/

/-- `Adds b b' unknown`: no document was finished between the two states, and the problems with
aliases found between them are those at the spans `unknown`. -/
structure Adds (b b' : Builder) (unknown : List Span) : Prop where
  documents : b'.documents = b.documents
  unknownAliases : unknownAliases b'.problems = unknown.reverse ++ unknownAliases b.problems

private theorem Adds.refl (b : Builder) : Adds b b [] :=
  ⟨rfl, rfl⟩

private theorem Adds.of_current {b b' : Builder} {c : Option OpenDocument} {us : List Span}
    (h : Adds { b with current? := c } b' us) : Adds b b' us :=
  ⟨h.documents, h.unknownAliases⟩

private theorem Adds.trans {b b' b'' : Builder} {us vs : List Span} (h : Adds b b' us)
    (h' : Adds b' b'' vs) : Adds b b'' (us ++ vs) := by
  constructor
  · rw [h'.documents, h.documents]
  · rw [h'.unknownAliases, h.unknownAliases, List.reverse_append, List.append_assoc]

/-- `record` completes a node. -/
private theorem record_anchors (b : Builder) (anchor? : Option ℕ+) (n : Node) :
    (b.record (anchorNumber anchor?) n).anchors = Completed.add b.anchors anchor? n := by
  cases anchor? with
  | none => rfl
  | some anchor => simp [record, anchorNumber, Completed.add]

private theorem Adds.record {b b' : Builder} {us : List Span} (h : Adds b b' us) (anchor : Nat)
    (n : Node) : Adds b (b'.record anchor n) us := by
  unfold Builder.record
  split
  · exact h
  · exact ⟨h.documents, h.unknownAliases⟩

/-- `addEntry` adds at most a warning about the key. -/
private theorem addEntry_spec (b : Builder) (entries : Node.Entries) (key value : Node) :
    Adds b (b.addEntry entries key value).1 [] ∧
      (b.addEntry entries key value).1.anchors = b.anchors ∧
      (b.addEntry entries key value).2 = (key, value) :: entries := by
  unfold addEntry
  cases key.str? with
  | none => exact ⟨Adds.refl b, rfl, rfl⟩
  | some name =>
    dsimp only
    split
    · exact ⟨⟨rfl, rfl⟩, rfl, rfl⟩
    · exact ⟨Adds.refl b, rfl, rfl⟩

end Builder

/-! ## Trees -/

open Builder

/-- `Node.withSpan` changes the place and nothing else. -/
private theorem sameValue_withSpan (n : Node) (s : Span) : SameValue n (n.withSpan s) := by
  cases n with
  | scalar value s' => exact .scalar value s' s
  | sequence items s' => exact .sequence items s' s
  | mapping entries s' => exact .mapping entries s' s

mutual

/-- The events of a tree deliver the node that the tree means. -/
theorem EventTree.foldl_step_events (cs : List Char) {b : Builder} {start : Nat}
    {stack : List Open} (hb : b.current? = some ⟨start, progressAt stack⟩) : (t : EventTree) →
    ∃ n b' us, Means cs b.anchors t n b'.anchors us ∧ Adds b b' us ∧
      t.events.foldl (step cs) b = b'.taken start stack n
  | .scalar anchor? text style e => by
    rw [EventTree.events]
    refine ⟨_, _, [], ?_, (Adds.refl b).record _ _,
      step_scalar cs hb text style (anchorNumber anchor?) e⟩
    rw [record_anchors]
    by_cases h : Unwritten cs text style e
    · rw [scalarNode_of_unwritten h]
      exact .unwritten h
    · rw [scalarNode_of_not_unwritten h]
      exact .written h
  | .sequence anchor? opening items closing => by
    obtain ⟨flow, hopen⟩ := step_sequenceStart cs hb (anchorNumber anchor?) opening
    obtain ⟨nodes, stop, us, hmeans, hadds, hcurrent⟩ := foldl_step_itemEvents cs
      (b := { b with current? := some ⟨start, progressAt (.sequence _ flow _ _ [] :: stack)⟩ })
      rfl items
    -- the items were delivered to the open sequence, and its end delivers it in turn
    obtain ⟨stop', hclose⟩ := step_sequenceEnd cs hcurrent closing
    rw [List.append_nil, List.reverse_reverse] at hclose
    rw [EventTree.events, List.foldl_cons, hopen, List.foldl_append, List.foldl_cons,
      List.foldl_nil, hclose]
    refine ⟨_, _, us, ?_, ?_, rfl⟩
    · rw [record_anchors]
      exact .sequence stop' hmeans
    · exact hadds.of_current.record _ _
  | .mapping anchor? opening entries closing => by
    obtain ⟨flow, hopen⟩ := step_mappingStart cs hb (anchorNumber anchor?) opening
    obtain ⟨nodes, stop, us, hmeans, hadds, hcurrent⟩ := foldl_step_entryEvents cs
      (b := { b with current? := some ⟨start, progressAt (.mapping _ flow _ _ [] none :: stack)⟩ })
      rfl entries
    obtain ⟨stop', hclose⟩ := step_mappingEnd cs hcurrent closing
    rw [List.append_nil, List.reverse_reverse] at hclose
    rw [EventTree.events, List.foldl_cons, hopen, List.foldl_append, List.foldl_cons,
      List.foldl_nil, hclose]
    refine ⟨_, _, us, ?_, ?_, rfl⟩
    · rw [record_anchors]
      exact .mapping stop' hmeans
    · exact hadds.of_current.record _ _
  | .alias anchor e => by
    rw [EventTree.events]
    -- an anchor that is not known is reported, and the alias stands for nothing
    cases hn : b.anchors.lookup (anchor : Nat) with
    | some n =>
      have hmeans : Means cs b.anchors (.alias anchor e) (n.withSpan (spanOf cs e)) b.anchors [] :=
        .known hn (sameValue_withSpan n _) (by cases n <;> rfl)
      exact ⟨_, b, [], hmeans, Adds.refl b, step_alias_of_some cs hb hn e⟩
    | none =>
      refine ⟨.plain "" (spanOf cs e),
        { b with problems := ⟨.unknownAlias, spanOf cs e⟩ :: b.problems }, [spanOf cs e],
        .unknown hn, ?_, step_alias_of_none cs hb hn e⟩
      exact ⟨rfl, rfl⟩

/-- The events of items leave their sequence open, with one node for each item. -/
private theorem foldl_step_itemEvents (cs : List Char) {b : Builder} {start : Nat}
    {stack : List Open} {opening anchor stop : Nat} {flow : Bool} {done : List Node}
    (hb : b.current? =
      some ⟨start, progressAt (.sequence opening flow anchor stop done :: stack)⟩) :
    (items : List EventTree) → ∃ nodes stop' us,
      MeansItems cs b.anchors items nodes ((itemEvents items).foldl (step cs) b).anchors us ∧
      Adds b ((itemEvents items).foldl (step cs) b) us ∧
      ((itemEvents items).foldl (step cs) b).current? = some ⟨start, progressAt
        (.sequence opening flow anchor stop' (nodes.reverse ++ done) :: stack)⟩
  | [] => by
    rw [itemEvents]
    exact ⟨[], stop, [], .nil, Adds.refl b, hb⟩
  | t :: rest => by
    obtain ⟨n, b', us, hmeans, hadds, hfold⟩ := t.foldl_step_events cs hb
    -- the item is taken, and the rest is met with the sequence one item longer
    obtain ⟨nodes, stop', vs, hmeans', hadds', hcurrent⟩ := foldl_step_itemEvents cs
      (b := b'.taken start (.sequence opening flow anchor stop done :: stack) n) rfl rest
    rw [itemEvents, List.foldl_append, hfold]
    refine ⟨n :: nodes, stop', us ++ vs, .cons hmeans hmeans', ?_, ?_⟩
    · exact hadds.trans ⟨hadds'.documents, hadds'.unknownAliases⟩
    · rw [hcurrent, List.reverse_cons, List.append_assoc]
      rfl

/-- The events of entries leave their mapping open, with a key and a value for each entry. -/
private theorem foldl_step_entryEvents (cs : List Char) {b : Builder} {start : Nat}
    {stack : List Open} {opening anchor stop : Nat} {flow : Bool} {done : Node.Entries}
    (hb : b.current? =
      some ⟨start, progressAt (.mapping opening flow anchor stop done none :: stack)⟩) :
    (entries : List (EventTree × EventTree)) → ∃ nodes stop' us,
      MeansEntries cs b.anchors entries nodes
        ((entryEvents entries).foldl (step cs) b).anchors us ∧
      Adds b ((entryEvents entries).foldl (step cs) b) us ∧
      ((entryEvents entries).foldl (step cs) b).current? = some ⟨start, progressAt
        (.mapping opening flow anchor stop' (nodes.reverse ++ done) none :: stack)⟩
  | [] => by
    rw [entryEvents]
    exact ⟨[], stop, [], .nil, Adds.refl b, hb⟩
  | (k, v) :: rest => by
    obtain ⟨key, b₁, us, hkey, haddsKey, hfoldKey⟩ := k.foldl_step_events cs hb
    -- the key waits in the mapping while its value is built
    have hwaiting : (b₁.taken start (.mapping opening flow anchor stop done none :: stack)
        key).current? =
        some ⟨start, progressAt (.mapping opening flow anchor stop done (some key) :: stack)⟩ := rfl
    obtain ⟨value, b₂, vs, hvalue, haddsValue, hfoldValue⟩ := v.foldl_step_events cs hwaiting
    obtain ⟨hadds, hanchors, hentries⟩ := addEntry_spec b₂ done key value
    have hentered : (b₂.taken start (.mapping opening flow anchor stop done (some key) :: stack)
        value).current? = some ⟨start, progressAt (.mapping opening flow anchor
          (max (max stop key.span.stop) value.span.stop) ((key, value) :: done) none ::
            stack)⟩ := by
      rw [← hentries]
      rfl
    obtain ⟨nodes, stop', ws, hmeans, haddsRest, hcurrent⟩ :=
      foldl_step_entryEvents cs hentered rest
    rw [entryEvents, List.foldl_append, List.foldl_append, hfoldKey, hfoldValue]
    refine ⟨(key, value) :: nodes, stop', us ++ vs ++ ws, ?_, ?_, ?_⟩
    · refine .cons hkey hvalue ?_
      rw [← hanchors]
      exact hmeans
    · have h₁ : Adds b b₂ (us ++ vs) :=
        haddsKey.trans ⟨haddsValue.documents, haddsValue.unknownAliases⟩
      have h₂ := h₁.trans hadds
      rw [List.append_nil] at h₂
      exact h₂.trans ⟨haddsRest.documents, haddsRest.unknownAliases⟩
    · rw [hcurrent, List.reverse_cons, List.append_assoc]
      rfl

end

/-! ## Documents -/

/-- The events of a document add the document, with the node that its tree means as root. -/
private theorem EventDocument.foldl_step_events (cs : List Char) {b : Builder}
    (hb : b.current? = none) (d : EventDocument) :
    ∃ root? range us, (d.events.foldl (step cs) b).documents = ⟨root?, range⟩ :: b.documents ∧
      (d.events.foldl (step cs) b).current? = none ∧
      unknownAliases (d.events.foldl (step cs) b).problems =
        us.reverse ++ unknownAliases b.problems ∧
      match d.root? with
      | none => root? = none ∧ us = [] ∧ (d.events.foldl (step cs) b).anchors = b.anchors
      | some t => ∃ n, root? = some n ∧
          Means cs b.anchors t n (d.events.foldl (step cs) b).anchors us := by
  obtain ⟨opening, root?, closing⟩ := d
  -- the events of the document open and finish it, and those between them are the tree's
  have hopen : step cs b ⟨.documentStart, opening⟩ =
      { b with current? := some ⟨byteOffset cs opening.start.index, progressAt []⟩ } :=
    step_outside cs hb ⟨.documentStart, opening⟩
  have hclose {b : Builder} {d : OpenDocument} (hb : b.current? = some d) :=
    step_ends cs hb (e := ⟨.documentEnd, closing⟩) rfl
  cases root? with
  | none =>
    have hevents : EventDocument.events ⟨opening, none, closing⟩ =
        [⟨.documentStart, opening⟩, ⟨.documentEnd, closing⟩] := rfl
    rw [hevents, List.foldl_cons, List.foldl_cons, List.foldl_nil, hopen, hclose rfl, finish_eq]
    exact ⟨none, _, [], rfl, rfl, rfl, rfl, rfl, rfl⟩
  | some t =>
    have hevents : EventDocument.events ⟨opening, some t, closing⟩ =
        ⟨.documentStart, opening⟩ :: (t.events ++ [⟨.documentEnd, closing⟩]) := rfl
    obtain ⟨n, b', us, hmeans, hadds, hfold⟩ := t.foldl_step_events cs
      (b := { b with current? := some ⟨byteOffset cs opening.start.index, progressAt []⟩ }) rfl
    rw [hevents, List.foldl_cons, hopen, List.foldl_append, List.foldl_cons, List.foldl_nil, hfold,
      hclose rfl, finish_eq]
    refine ⟨some n, (documentOf (byteOffset cs opening.start.index) (some n)
      (some (spanOf cs closing).stop)).range, us, ?_, rfl, hadds.unknownAliases, n, rfl, hmeans⟩
    exact congrArg (List.cons _) hadds.documents

/-- The events of documents add one document for each. -/
private theorem foldl_step_documents (cs : List Char) (docs : List EventDocument) {b : Builder}
    (hb : b.current? = none) :
    ∃ documents us,
      MeansDocuments cs b.anchors docs documents
        ((docs.flatMap EventDocument.events).foldl (step cs) b).anchors us ∧
      ((docs.flatMap EventDocument.events).foldl (step cs) b).documents =
        documents.reverse ++ b.documents ∧
      ((docs.flatMap EventDocument.events).foldl (step cs) b).current? = none ∧
      unknownAliases ((docs.flatMap EventDocument.events).foldl (step cs) b).problems =
        us.reverse ++ unknownAliases b.problems := by
  induction docs generalizing b with
  | nil => exact ⟨[], [], .nil, rfl, hb, rfl⟩
  | cons d docs ih =>
    obtain ⟨root?, range, us, hdocuments, hcurrent, hunknown, hroot⟩ := d.foldl_step_events cs hb
    obtain ⟨documents, vs, hmeans, hdocuments', hcurrent', hunknown'⟩ := ih hcurrent
    rw [List.flatMap_cons, List.foldl_append]
    refine ⟨⟨root?, range⟩ :: documents, us ++ vs, ?_, ?_, hcurrent', ?_⟩
    · obtain ⟨opening, tree?, closing⟩ := d
      cases tree? with
      -- a document without a node leaves the anchors as they are
      | none =>
        obtain ⟨rfl, rfl, hanchors⟩ := hroot
        rw [hanchors] at hmeans
        exact .empty hmeans
      | some t =>
        obtain ⟨n, rfl, hn⟩ := hroot
        exact .node hn hmeans
    · rw [hdocuments', hdocuments, List.reverse_cons, List.append_assoc]
      rfl
    · rw [hunknown', hunknown, List.reverse_append, List.append_assoc]

private theorem unknownAliases_reverse (problems : List Problem) :
    unknownAliases problems.reverse = (unknownAliases problems).reverse := by
  rw [unknownAliases, unknownAliases, List.filter_reverse, List.map_reverse]

private theorem unknownAliases_append (ps qs : List Problem) :
    unknownAliases (ps ++ qs) = unknownAliases ps ++ unknownAliases qs := by
  rw [unknownAliases, List.filter_append, List.map_append]
  rfl

/-- `Stream.ofEvents` gives one document for each document that was told, with what its tree means
as root, and reports each alias that stands for nothing once and in order. -/
theorem documents_ofEvents (text : String) (docs : List EventDocument) (problems : List Problem) :
    ∃ done unknown,
      MeansDocuments text.toList [] docs
        (Stream.ofEvents text (docs.flatMap EventDocument.events) problems).documents done
        unknown ∧
      unknownAliases (Stream.ofEvents text (docs.flatMap EventDocument.events) problems).problems =
        unknownAliases problems ++ unknown := by
  obtain ⟨documents, us, hmeans, hdocuments, hcurrent, hunknown⟩ :=
    foldl_step_documents text.toList docs (b := initial) rfl
  -- the last document is finished, so that `done` has nothing left to do
  have hrun : run text.toList (docs.flatMap EventDocument.events) =
      (docs.flatMap EventDocument.events).foldl (step text.toList) initial := by
    rw [run, done, hcurrent]
  have hinitial : (documents.reverse ++ initial.documents).reverse = documents := by
    simp [initial]
  rw [Stream.ofEvents_eq_run, hrun, hdocuments, hinitial]
  refine ⟨((docs.flatMap EventDocument.events).foldl (step text.toList) initial).anchors, us,
    hmeans, ?_⟩
  rw [unknownAliases_append, unknownAliases_reverse, hunknown, List.reverse_append,
    List.reverse_reverse]
  rfl

/-- A sequence with an alias inside its own anchored item, and one behind it; then a document that
is an alias of the same item. -/
def selfAliasText : String := "- &a [x, *a]\n- *a\n--- *a"

/-- The documents of `selfAliasText`. -/
def selfAliasDocuments : List EventDocument :=
  [⟨⟨⟨0, 1, 0⟩, ⟨0, 1, 0⟩⟩,
      some (.sequence none ⟨⟨0, 1, 0⟩, ⟨1, 1, 1⟩⟩
        [.sequence (some (Nat.succPNat 0)) ⟨⟨5, 1, 5⟩, ⟨6, 1, 6⟩⟩
          [.scalar none "x" .plain ⟨⟨6, 1, 6⟩, ⟨7, 1, 7⟩⟩,
            .alias (Nat.succPNat 0) ⟨⟨9, 1, 9⟩, ⟨11, 1, 11⟩⟩]
          ⟨⟨11, 1, 11⟩, ⟨12, 1, 12⟩⟩,
        .alias (Nat.succPNat 0) ⟨⟨15, 2, 2⟩, ⟨17, 2, 4⟩⟩]
        ⟨⟨18, 3, 0⟩, ⟨18, 3, 0⟩⟩),
      ⟨⟨18, 3, 0⟩, ⟨18, 3, 0⟩⟩⟩,
    ⟨⟨⟨18, 3, 0⟩, ⟨21, 3, 3⟩⟩, some (.alias (Nat.succPNat 0) ⟨⟨22, 3, 4⟩, ⟨24, 3, 6⟩⟩),
      ⟨⟨24, 3, 6⟩, ⟨24, 3, 6⟩⟩⟩]

/-- The item, as it stands in the first document and as it is copied. -/
def selfAliasItem (s : Span) : Node :=
  .sequence [.scalar ⟨"x", .plain⟩ ⟨6, 7⟩, .scalar ⟨"", .plain⟩ ⟨9, 11⟩] s

theorem documents_selfAliasDocuments :
    Stream.ofEvents selfAliasText (selfAliasDocuments.flatMap EventDocument.events) [] =
        ⟨[⟨some (.sequence [selfAliasItem ⟨5, 12⟩, selfAliasItem ⟨15, 17⟩] ⟨0, 17⟩), ⟨0, 17, 18⟩⟩,
          ⟨some (selfAliasItem ⟨22, 24⟩), ⟨18, 24, 24⟩⟩],
        [⟨.unknownAlias, ⟨9, 11⟩⟩]⟩ ∧
      ∃ done unknown,
        MeansDocuments selfAliasText.toList [] selfAliasDocuments
          (Stream.ofEvents selfAliasText
            (selfAliasDocuments.flatMap EventDocument.events) []).documents done unknown ∧
        unknownAliases (Stream.ofEvents selfAliasText
            (selfAliasDocuments.flatMap EventDocument.events) []).problems =
          unknownAliases [] ++ unknown := by
  refine ⟨rfl, ?_⟩
  exact documents_ofEvents selfAliasText selfAliasDocuments []

end PrimitiveDesk.Yaml
