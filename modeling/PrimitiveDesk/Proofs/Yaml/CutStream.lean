import PrimitiveDesk.Proofs.Yaml.Offsets

/-!
# Streams that are cut off

Events can come in any order and can stop anywhere: a text with a fault has the events in front of
the fault only. Still every start of a document gives one document (`Builder.starts_foldl`), whose
content lies in its range (`Builder.ordered_run`), and a document whose end was met does not depend
on what comes behind it (`Builder.closed_documents`). `Stream.ofEvents_of_cut` says all of this of
the documents that `Stream.ofEvents` finds.
-/

namespace PrimitiveDesk.Yaml

open Text

/-- The content of a document ends in its range. -/
structure DocumentRange.Ordered (r : DocumentRange) : Prop where
  start_le : r.start ≤ r.contentEnd
  le_stop : r.contentEnd ≤ r.stop

namespace Builder

/-! ## Starts -/

/-- Where the documents start, the one that is open included. -/
def starts (b : Builder) : List Nat :=
  b.documents.reverse.map (·.range.start) ++ (b.current?.map (·.start)).toList

/-- Where the documents of a list of events start. -/
def startsOf (cs : List Char) (events : List Event) : List Nat :=
  (events.filter (·.kind.opensDocument)).map fun e => byteOffset cs e.extent.start.index

/-- `finish` leaves the start of the open document where it was. -/
private theorem starts_finish (b : Builder) {d : OpenDocument} (hb : b.current? = some d)
    (stop? : Option Nat) : (b.finish d stop?).documents.reverse.map (·.range.start) = b.starts := by
  rw [finish_eq]
  simp [starts, hb, documentOf]

private theorem startsOf_singleton (cs : List Char) (e : Event) :
    startsOf cs [e] = ((opened? cs e).map (·.start)).toList := by
  unfold startsOf opened? spanOf
  cases h : e.kind.opensDocument <;> simp [h]

/-- `step` adds the start of a document exactly if the event opens one. -/
private theorem starts_step (cs : List Char) (b : Builder) (e : Event) :
    (step cs b e).starts = b.starts ++ startsOf cs [e] := by
  rw [startsOf_singleton]
  cases hb : b.current? with
  | none =>
    rw [step_outside cs hb]
    simp [starts, hb]
  | some d =>
    cases he : e.kind.endsDocument with
    | true =>
      rw [step_ends cs hb he, ← starts_finish b hb (markerStop? cs e)]
      rfl
    | false =>
      -- an event inside a document opens none
      have hopened : opened? cs e = none := by
        unfold opened?
        cases hkind : e.kind with
        | documentStart => rw [hkind] at he; cases he
        | _ => rfl
      rw [step_inside cs hb he, hopened]
      simp [starts, progress_documents, hb]

/-- Documents start where the events say so. -/
theorem starts_foldl (cs : List Char) (events : List Event) (b : Builder) :
    (events.foldl (step cs) b).starts = b.starts ++ startsOf cs events := by
  induction events generalizing b with
  | nil => simp [startsOf]
  | cons e events ih =>
    have hcons : startsOf cs (e :: events) = startsOf cs [e] ++ startsOf cs events := by
      rw [startsOf, startsOf, startsOf, ← List.map_append, ← List.filter_append,
        List.singleton_append]
    rw [List.foldl_cons, ih, starts_step, hcons, List.append_assoc]

/-- `run` gives the documents that the events start. -/
private theorem starts_run (cs : List Char) (events : List Event) :
    (run cs events).documents.reverse.map (·.range.start) = startsOf cs events := by
  have hfold := starts_foldl cs events initial
  rw [show initial.starts = [] from rfl, List.nil_append] at hfold
  rw [← hfold]
  -- the open document is counted among the starts, and `done` finishes it
  unfold run done
  split
  · next d hcurrent => exact starts_finish _ hcurrent none
  · next hcurrent => simp [starts, hcurrent]

/-! ## Ranges -/

/-- `documentOf` takes the larger of two offsets, which is behind both of them. -/
theorem ordered_documentOf (start : Nat) (root? : Option Node) (stop? : Option Nat) :
    (documentOf start root? stop?).range.Ordered where
  start_le := by
    cases root? with
    | none => exact Nat.le_refl start
    | some n => exact Nat.le_max_right n.span.stop start
  le_stop := by
    cases stop? with
    | none => exact Nat.le_refl _
    | some stop => exact Nat.le_max_left _ stop

/-- `step` finishes documents in order. -/
private theorem ordered_step (cs : List Char) {b : Builder}
    (hb : ∀ d ∈ b.documents, d.range.Ordered) (e : Event) :
    ∀ d ∈ (step cs b e).documents, d.range.Ordered := by
  obtain h | ⟨start, root?, stop?, h⟩ := documents_step cs b e
  · rw [h]
    exact hb
  · rw [h]
    exact List.forall_mem_cons.mpr ⟨ordered_documentOf start root? stop?, hb⟩

/-- All finished documents are in order. -/
private theorem ordered_foldl (cs : List Char) (events : List Event) {b : Builder}
    (hb : ∀ d ∈ b.documents, d.range.Ordered) :
    ∀ d ∈ (events.foldl (step cs) b).documents, d.range.Ordered := by
  induction events generalizing b with
  | nil => exact hb
  | cons e events ih => exact ih (ordered_step cs hb e)

/-- The content of every document lies in its range. -/
theorem ordered_run (cs : List Char) (events : List Event) :
    ∀ d ∈ (run cs events).documents, d.range.Ordered := by
  have hb := ordered_foldl cs events (b := initial) (by simp [initial])
  obtain h | ⟨start, root?, stop?, h⟩ := documents_done (events.foldl (step cs) initial)
  · rw [run, h]
    exact hb
  · rw [run, h]
    exact List.forall_mem_cons.mpr ⟨ordered_documentOf start root? stop?, hb⟩

/-! ## Documents that were closed -/

/-- A document that is open stays so until an event ends it, and no other one is finished. -/
private theorem foldl_step_inside (cs : List Char) {events : List Event}
    (hevents : ∀ e ∈ events, e.kind.endsDocument = false) {b : Builder} {d : OpenDocument}
    (hb : b.current? = some d) :
    (events.foldl (step cs) b).documents = b.documents ∧
      ∃ p, (events.foldl (step cs) b).current? = some ⟨d.start, p⟩ := by
  induction events generalizing b d with
  | nil => exact ⟨rfl, d.progress, hb⟩
  | cons e events ih =>
    obtain ⟨he, hrest⟩ := List.forall_mem_cons.mp hevents
    obtain ⟨hdocuments, hcurrent⟩ := ih hrest (b := step cs b e)
      (by rw [step_inside cs hb he])
    rw [List.foldl_cons]
    refine ⟨hdocuments.trans ?_, hcurrent⟩
    rw [step_inside cs hb he]
    exact progress_documents cs b e d.progress

/-- What is finished after some events is still there in the end. -/
private theorem documents_suffix_run (cs : List Char) (events further : List Event) :
    (events.foldl (step cs) initial).documents <:+ (run cs (events ++ further)).documents := by
  rw [run, List.foldl_append]
  exact (documents_suffix_foldl cs further _).trans (documents_suffix_done _)

end Builder

/-- The list of events has the end marker of its `i`-th document. -/
def Closes (events : List Event) (i : Nat) : Prop :=
  ∃ before opening inner closing rest,
    events = before ++ opening :: (inner ++ closing :: rest) ∧
    before.countP (·.kind.opensDocument) = i ∧
    opening.kind = .documentStart ∧
    (∀ e ∈ inner, e.kind.endsDocument = false) ∧
    closing.kind = .documentEnd

namespace Builder

private theorem length_startsOf (cs : List Char) (events : List Event) :
    (startsOf cs events).length = events.countP (·.kind.opensDocument) := by
  rw [startsOf, List.length_map, List.countP_eq_length_filter]

/-- Behind its opening, a document is open and all that were opened before it are finished. -/
private theorem foldl_step_opening (cs : List Char) (before : List Event) {opening : Event}
    (hopening : opening.kind = .documentStart) :
    ∃ d, ((before ++ [opening]).foldl (step cs) initial).current? = some d ∧
      ((before ++ [opening]).foldl (step cs) initial).documents.length =
        before.countP (·.kind.opensDocument) := by
  have hopens : opening.kind.opensDocument = true := by rw [hopening]; rfl
  have hends : opening.kind.endsDocument = true := by rw [hopening]; rfl
  have hopened : opened? cs opening = some ⟨(spanOf cs opening.extent).start, .awaiting⟩ := by
    rw [opened?, if_pos hopens]
  have hcurrent : ((before ++ [opening]).foldl (step cs) initial).current? =
      some ⟨(spanOf cs opening.extent).start, .awaiting⟩ := by
    rw [List.foldl_append, List.foldl_cons, List.foldl_nil]
    cases hb : (before.foldl (step cs) initial).current? with
    | none => rw [step_outside cs hb, hopened]
    | some d => rw [step_ends cs hb hends, hopened]
  refine ⟨_, hcurrent, ?_⟩
  -- as many documents have started as were opened, and the last of them is not finished
  have hlength := congrArg List.length (starts_foldl cs (before ++ [opening]) initial)
  rw [show initial.starts = [] from rfl, List.nil_append, length_startsOf, List.countP_append,
    starts, hcurrent] at hlength
  simpa [hopens] using hlength

/-- Behind its end marker, a document is finished. -/
private theorem length_documents_of_closing (cs : List Char) (before : List Event)
    {opening closing : Event} {inner : List Event} (hopening : opening.kind = .documentStart)
    (hinner : ∀ e ∈ inner, e.kind.endsDocument = false) (hclosing : closing.kind = .documentEnd) :
    ((before ++ opening :: (inner ++ [closing])).foldl (step cs) initial).documents.length =
      before.countP (·.kind.opensDocument) + 1 := by
  have hends : closing.kind.endsDocument = true := by rw [hclosing]; rfl
  obtain ⟨d, hd, hcount⟩ := foldl_step_opening cs before hopening
  -- the events inside keep the document open, and the end marker finishes it
  obtain ⟨hdocuments, p, hcurrent⟩ := foldl_step_inside cs hinner hd
  rw [List.append_cons, List.foldl_append, List.foldl_append, List.foldl_cons, List.foldl_nil,
    step_ends cs hcurrent hends, finish_eq, List.length_cons, hdocuments, hcount]

/-- A document that was closed stays as it is, at its index, whatever comes behind it. -/
theorem closed_documents (cs : List Char) {events : List Event} {i : Nat} (h : Closes events i) :
    ∃ d, ∀ further, (run cs (events ++ further)).documents.reverse[i]? = some d := by
  obtain ⟨before, opening, inner, closing, rest, rfl, hi, hopening, hinner, hclosing⟩ := h
  let closed := before ++ opening :: (inner ++ [closing])
  have hlength : (closed.foldl (step cs) initial).documents.length = i + 1 := by
    rw [length_documents_of_closing cs before hopening hinner hclosing, hi]
  have hlt : i < (closed.foldl (step cs) initial).documents.reverse.length := by
    rw [List.length_reverse, hlength]
    exact Nat.lt_succ_self i
  refine ⟨(closed.foldl (step cs) initial).documents.reverse[i], fun further => ?_⟩
  have hsplit : before ++ opening :: (inner ++ closing :: rest) ++ further =
      closed ++ (rest ++ further) := by simp [closed]
  -- further documents only come behind those that are there
  obtain ⟨later, hlater⟩ :=
    List.reverse_prefix.mpr (documents_suffix_run cs closed (rest ++ further))
  rw [hsplit]
  rw [← hlater, List.getElem?_append_left hlt, List.getElem?_eq_getElem hlt]

end Builder

/-- Whatever the events over a text are, and whether or not a fault has cut them off: there is one
document for each event that starts one, at its place; all offsets are character boundaries of the
text; the content of a document lies in its range; and a document whose end marker was met is the
same, at the same index, if more events follow. -/
theorem Stream.ofEvents_of_cut (text : String) (events : List Event) (fault? : Option ScanError) :
    let stream := Stream.ofEvents text events (fault?.map (faultProblem text)).toList
    stream.documents.length = events.countP (·.kind.opensDocument) ∧
    stream.documents.map (·.range.start) =
      (events.filter (·.kind.opensDocument)).map
        (fun e => byteOffset text.toList e.extent.start.index) ∧
    (∀ o ∈ stream.offsets, IsCharBoundary text o ∧ o ≤ text.utf8ByteSize) ∧
    (∀ d ∈ stream.documents,
      d.range.start ≤ d.range.contentEnd ∧ d.range.contentEnd ≤ d.range.stop) ∧
    ∀ (further : List Event) (laterFault? : Option ScanError) (i : Nat), Closes events i →
      ∃ d, stream.documents[i]? = some d ∧
        (Stream.ofEvents text (events ++ further)
          (laterFault?.map (faultProblem text)).toList).documents[i]? = some d := by
  intro stream
  have hstream : stream.documents = (Builder.run text.toList events).documents.reverse := by
    simp only [stream, Stream.ofEvents_eq_run]
  have hstarts := Builder.starts_run text.toList events
  rw [← hstream] at hstarts
  refine ⟨?_, hstarts, ?_, ?_, ?_⟩
  · rw [← Builder.length_startsOf text.toList, ← hstarts, List.length_map]
  · have hfault : ∀ p ∈ (fault?.map (faultProblem text)).toList,
        p.span.Within (IsCharBoundary text) := by
      intro p hp
      obtain ⟨e, -, rfl⟩ := Option.map_eq_some_iff.mp (Option.mem_toList.mp hp)
      exact within_faultProblem text e
    intro o ho
    have hboundary := offsets_ofEvents text events hfault o ho
    exact ⟨hboundary, hboundary.le_utf8ByteSize⟩
  · intro d hd
    rw [hstream, List.mem_reverse] at hd
    have hordered := Builder.ordered_run text.toList events d hd
    exact ⟨hordered.start_le, hordered.le_stop⟩
  · intro further laterFault? i hcloses
    -- the document is the same whatever follows, also if that is nothing
    obtain ⟨d, hd⟩ := Builder.closed_documents text.toList hcloses
    refine ⟨d, ?_, ?_⟩
    · rw [hstream, ← List.append_nil events]
      exact hd []
    · rw [Stream.ofEvents_eq_run]
      exact hd further

/-- The events of `a`, an end marker, and a second document that is cut off inside a sequence. -/
def cutEvents : List Event :=
  [⟨.documentStart, ⟨⟨0, 1, 0⟩, ⟨0, 1, 0⟩⟩⟩,
    ⟨.scalar "a" .plain 0, ⟨⟨0, 1, 0⟩, ⟨1, 1, 1⟩⟩⟩,
    ⟨.documentEnd, ⟨⟨2, 2, 0⟩, ⟨5, 2, 3⟩⟩⟩,
    ⟨.documentStart, ⟨⟨2, 2, 0⟩, ⟨5, 2, 3⟩⟩⟩,
    ⟨.sequenceStart 0, ⟨⟨6, 3, 0⟩, ⟨7, 3, 1⟩⟩⟩]

/-- The first document of `cutEvents` does not change when the sequence goes on. -/
theorem Stream.ofEvents_cutEvents :
    Closes cutEvents 0 ∧ ∃ d,
      (Stream.ofEvents "a\n---\n[b" cutEvents []).documents[0]? = some d ∧
      (Stream.ofEvents "a\n---\n[b"
        (cutEvents ++ [⟨.scalar "b" .plain 0, ⟨⟨7, 3, 1⟩, ⟨8, 3, 2⟩⟩⟩]) []).documents[0]? =
          some d := by
  have hcloses : Closes cutEvents 0 := ⟨[], _, [_], _, _, rfl, rfl, rfl, by decide, rfl⟩
  obtain ⟨-, -, -, -, hsame⟩ := Stream.ofEvents_of_cut "a\n---\n[b" cutEvents none
  exact ⟨hcloses, hsame _ none 0 hcloses⟩

end PrimitiveDesk.Yaml
