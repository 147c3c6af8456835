import Mathlib.Data.List.Induction
import PrimitiveDesk.Proofs.Server.OpenTexts

/-!
# Keeping up with the client

The client tells the server of each document that it opens, changes or closes, and the server works
with the text that it was told last. By full synchronisation the texts of one change replace each
other in turn, so the last of them counts, and what is not open has no text. The server takes the
first text of a change, and takes it also for a document that is not open. So it works with the text
that the client means as long as no change does either of the two.

`Transcript.after` is a session with all that its client has been told. `lastText?` is the text of a
document by what the server does, and `prescribed?` the one by full synchronisation. Store and
diagnostics follow the calls over every run (`Transcript.follows_after`).
-/

namespace PrimitiveDesk

/-! ## Sessions with their history -/

/-- A session with all that its client has been told. -/
structure Transcript where
  told : List Notice
  session : Session

namespace Transcript

variable (t : Transcript)

/-- A session that has been started. -/
def start (settings : Settings) (options? : Option Json) : Transcript :=
  ⟨(Session.start settings options?).1, (Session.start settings options?).2⟩

/-- What follows a call that finds the machine in some state. -/
def next (event : Host × Call) : Transcript :=
  ⟨t.told ++ (t.session.step event.1 event.2).2.1, (t.session.step event.1 event.2).2.2.1⟩

/-- What follows a number of calls, one after another. -/
def after (settings : Settings) (options? : Option Json) (events : List (Host × Call)) :
    Transcript :=
  events.foldl next (start settings options?)

/-- The diagnostics of a document that the client was told last. -/
def shown? (u : Uri) : Option Notice :=
  (t.told.filter (·.isAbout u)).getLast?

/-- What `shown?` gives after more was told. -/
theorem shown?_append (u : Uri) (notices : List Notice) (session : Session) :
    (Transcript.mk (t.told ++ notices) session).shown? u =
      (notices.filter (·.isAbout u)).getLast?.or (t.shown? u) := by
  unfold shown?
  rw [List.filter_append, List.getLast?_append]

end Transcript

/-- Whether a call ends the session. -/
def Call.isShutdown : Call → Bool
  | shutdown => true
  | _ => false

/-- The calls that are handled: those before a shutdown. -/
def handled (calls : List Call) : List Call :=
  calls.takeWhile (!·.isShutdown)

/-- A shutdown writes no text. -/
private theorem Call.write?_of_isShutdown {call : Call} (h : call.isShutdown) (u : Uri) :
    call.write? u = none := by
  cases call with
  | shutdown => rfl
  | _ => cases h

/-- The calls handled up to some event are those of a front part of the calls that are handled, and
every front part is reached. -/
private theorem forall_handled_iff {P : List Call → Prop} (events : List (Host × Call)) :
    (∀ front, front <+: events → P (handled (front.map Prod.snd))) ↔
      ∀ front, front <+: handled (events.map Prod.snd) → P front := by
  have htake (n : Nat) :
      handled ((events.take n).map Prod.snd) = (handled (events.map Prod.snd)).take n := by
    rw [handled, handled, List.map_take, List.take_takeWhile]
  constructor
  · intro h front hfront
    rw [List.prefix_iff_eq_take.mp hfront, ← htake]
    exact h _ (List.take_prefix _ _)
  · intro h front hfront
    rw [List.prefix_iff_eq_take.mp hfront, htake]
    exact h _ (List.take_prefix _ _)

/-! ## The text of a document -/

/-- What was written last in the place of a document's text. -/
def lastText? (u : Uri) (calls : List Call) : Option OpenText :=
  (calls.filterMap (Call.write? u)).getLast?.join

/-- The text of a document after a call by full synchronisation: opening gives it, the texts of a
change replace it in turn, and closing takes it away. -/
def Call.synchronised (u : Uri) (text? : Option String) (call : Call) : Option String :=
  if call.document? = some u then
    match call with
    | opened _ text _ => some text
    | changed _ texts _ => text?.map fun text => texts.foldl (fun _ newer => newer) text
    | closed _ => none
    | _ => text?
  else text?

/-- The text of a document after calls by full synchronisation. -/
def prescribed? (u : Uri) (calls : List Call) : Option String :=
  calls.foldl (Call.synchronised u) none

/-- `lastText?` after one more call. -/
private theorem lastText?_concat (u : Uri) (calls : List Call) (call : Call) :
    lastText? u (calls ++ [call]) = (call.write? u).getD (lastText? u calls) := by
  unfold lastText?
  rw [List.filterMap_append, List.getLast?_append]
  cases h : call.write? u with
  | none => simp [h]
  | some write => simp [h]

private theorem prescribed?_concat (u : Uri) (calls : List Call) (call : Call) :
    prescribed? u (calls ++ [call]) = call.synchronised u (prescribed? u calls) := by
  simp [prescribed?]

/-- A change keeps to full synchronisation if it has no text, or comes for an open document and its
first text is its last one. Every other call does. -/
def Call.KeepsTo (u : Uri) (isOpen : Bool) : Call → Prop
  | changed uri texts _ =>
    (Uri.ofText uri).toOption = some u →
      texts = [] ∨ isOpen ∧ texts.head? = texts.getLast?
  | _ => True

/-- Of texts that replace each other in turn the last one stays. -/
private theorem foldl_newer (texts : List String) (text : String) :
    texts.foldl (fun _ newer => newer) text = texts.getLast?.getD text := by
  induction texts generalizing text with
  | nil => rfl
  | cons newer texts ih => rw [List.foldl_cons, ih, List.getLast?_cons, Option.getD_some]

/-- A call writes what full synchronisation prescribes exactly if it keeps to it. -/
private theorem Call.write?_eq_synchronised_iff (u : Uri) (d? : Option OpenText) (call : Call) :
    ((call.write? u).getD d?).map (·.content) = call.synchronised u (d?.map (·.content)) ↔
      call.KeepsTo u d?.isSome := by
  -- only a call about the document changes its text, in the server and by the rule
  by_cases hu : call.document? = some u
  · unfold write? synchronised
    rw [if_pos hu, if_pos hu]
    cases call with
    | changed uri texts version =>
      have hkeeps : (Call.changed uri texts version).KeepsTo u d?.isSome ↔
          texts = [] ∨ d?.isSome ∧ texts.head? = texts.getLast? :=
        ⟨fun h => h hu, fun h _ => h⟩
      rw [hkeeps]
      -- the first text is taken, and the last one is prescribed if the document is open
      cases texts with
      | nil => simp [Function.comp_def]
      | cons text texts =>
        cases d? with
        | none => simp
        | some d => simp [foldl_newer, List.getLast?_cons]
    | opened uri text version => exact iff_of_true rfl trivial
    | closed uri => exact iff_of_true rfl trivial
    | _ => cases hu
  · unfold write? synchronised
    rw [if_neg hu, if_neg hu]
    refine iff_of_true rfl ?_
    cases call with
    | changed uri texts version => exact fun h => absurd h hu
    | _ => trivial

/-- The texts are the prescribed ones all along exactly if every call keeps to full
synchronisation. -/
private theorem lastText?_eq_prescribed?_iff (u : Uri) (calls : List Call) :
    (∀ front, front <+: calls → (lastText? u front).map (·.content) = prescribed? u front) ↔
      ∀ front call, front ++ [call] <+: calls →
        call.KeepsTo u (prescribed? u front).isSome := by
  have hstep : ∀ {front} call, (lastText? u front).map (·.content) = prescribed? u front →
      ((lastText? u (front ++ [call])).map (·.content) = prescribed? u (front ++ [call]) ↔
        call.KeepsTo u (prescribed? u front).isSome) := by
    intro front call h
    rw [lastText?_concat, prescribed?_concat, ← h, call.write?_eq_synchronised_iff,
      Option.isSome_map]
  constructor
  · intro h front call hprefix
    have hfront := h front ((List.prefix_append front [call]).trans hprefix)
    exact (hstep call hfront).mp (h _ hprefix)
  · -- calls are added at the end, so the induction takes the last one off
    intro h front hprefix
    induction front using List.reverseRecOn with
    | nil => rfl
    | append_singleton front call ih =>
      have hfront := ih ((List.prefix_append front [call]).trans hprefix)
      exact (hstep call hfront).mpr (h front call hprefix)

/-! ## Runs -/

namespace Transcript

/-- The session follows the calls with the text of a document: the store has what was written last,
and that is what the client was shown last. -/
structure Follows (t : Transcript) (u : Uri) (calls : List Call) : Prop where
  get? : t.session.workspace.texts.get? u = lastText? u calls
  distinct : t.session.workspace.texts.Distinct
  shown : ∀ n, t.shown? u = some n → n.Shows u (lastText? u calls)
  told : t.shown? u = none → lastText? u calls = none

variable {t : Transcript} {u : Uri} {calls : List Call}

private theorem Follows.congr {calls' : List Call} (h : t.Follows u calls)
    (hsame : lastText? u calls' = lastText? u calls) : t.Follows u calls' :=
  ⟨hsame ▸ h.get?, h.distinct, hsame ▸ h.shown, hsame ▸ h.told⟩

/-- At the start no text is written. -/
theorem follows_start (settings : Settings) (options? : Option Json) (u : Uri) :
    (start settings options?).Follows u [] := by
  have htexts : (start settings options?).session.workspace.texts = .empty := by
    show ((Workspace.ofSettings settings).configure options?).texts = _
    unfold Workspace.configure
    split <;> rfl
  refine ⟨by rw [htexts]; rfl, by rw [htexts]; exact List.nodup_nil, ?_, fun _ => rfl⟩
  intro n hn
  cases hn

/-- Nothing follows once the session is over. -/
theorem foldl_next_of_isOver (h : t.session.isOver) (events : List (Host × Call)) :
    events.foldl next t = t := by
  induction events with
  | nil => rfl
  | cons event events ih =>
    have hnext : t.next event = t := by simp [next, Session.step, h]
    rw [List.foldl_cons, hnext, ih]

/-- A session that is not over answers by `Session.answer`. -/
theorem next_of_not_isOver (h : t.session.isOver = false) (host : Host) (call : Call) :
    t.next (host, call) =
      ⟨t.told ++ (Session.answer t.session.workspace host call).2.1,
        (Session.answer t.session.workspace host call).2.2.1, call.isShutdown⟩ := by
  cases call <;> simp [next, Session.step, h, Call.isShutdown]

/-- `Follows` holds after one more call in a session that is not over. -/
private theorem Follows.next (h : t.Follows u calls) (hover : t.session.isOver = false)
    (host : Host) (call : Call) : (t.next (host, call)).Follows u (calls ++ [call]) := by
  have hup := Session.updates_answer t.session.workspace host call u
  rw [next_of_not_isOver hover]
  generalize Session.answer t.session.workspace host call = answer at hup ⊢
  have hget : answer.2.2.1.texts.get? u = lastText? u (calls ++ [call]) := by
    rw [hup.get?, h.get?, lastText?_concat]
  have hshown := t.shown?_append u answer.2.1 ⟨answer.2.2.1, call.isShutdown⟩
  cases hlast : (answer.2.1.filter (·.isAbout u)).getLast? with
  | none =>
    -- nothing is told about the document, so nothing is written and all is as before
    have hsame : lastText? u (calls ++ [call]) = lastText? u calls := by
      rw [lastText?_concat, hup.eq_none_of_getLast? hlast]
      rfl
    rw [hlast, Option.none_or] at hshown
    refine ⟨hget, hup.distinct h.distinct, ?_, ?_⟩ <;> rw [hshown, hsame]
    · exact h.shown
    · exact h.told
  | some n =>
    rw [hlast, Option.some_or] at hshown
    refine ⟨hget, hup.distinct h.distinct, ?_, ?_⟩ <;> rw [hshown]
    · rintro n' ⟨⟩
      exact hget ▸ hup.shows_of_getLast? h.distinct hlast
    · intro hnone
      cases hnone

/-- `Follows` holds after a run from a session that is not over. The induction is on the calls that
are left. -/
private theorem Follows.foldl_next (h : t.Follows u calls) (hover : t.session.isOver = false)
    (events : List (Host × Call)) :
    (events.foldl Transcript.next t).Follows u (calls ++ handled (events.map Prod.snd)) := by
  induction events generalizing t calls with
  | nil =>
    rw [List.map_nil, handled, List.takeWhile_nil, List.append_nil]
    exact h
  | cons event events ih =>
    obtain ⟨host, call⟩ := event
    rw [List.foldl_cons, List.map_cons, handled]
    have hnext := h.next hover host call
    have hover' : (t.next (host, call)).session.isOver = call.isShutdown := by
      rw [next_of_not_isOver hover]
    cases hcall : call.isShutdown with
    | true =>
      -- no call is handled any more, and a shutdown writes nothing
      rw [foldl_next_of_isOver (hover'.trans hcall), List.takeWhile_cons_of_neg (by simp [hcall])]
      refine hnext.congr ?_
      rw [List.append_nil, lastText?_concat, Call.write?_of_isShutdown hcall]
      rfl
    | false =>
      rw [List.takeWhile_cons_of_pos (by simp [hcall]), ← List.singleton_append,
        ← List.append_assoc]
      exact ih hnext (hover'.trans hcall)

/-- Store and diagnostics follow the calls, over every run. -/
theorem follows_after (settings : Settings) (options? : Option Json) (events : List (Host × Call))
    (u : Uri) :
    (after settings options? events).Follows u (handled (events.map Prod.snd)) :=
  (follows_start settings options? u).foldl_next rfl events

/-- The text that requests read after a run. -/
private theorem content?_after (settings : Settings) (options? : Option Json)
    (events : List (Host × Call)) (u : Uri) :
    (after settings options? events).session.workspace.content? u =
      (lastText? u (handled (events.map Prod.snd))).map (·.content) :=
  congrArg (Option.map OpenText.content) (follows_after settings options? events u).get?

/-- After every run, the text of a document is the one written last. Requests at the document are
answered by that text, whatever else is open, and the diagnostics that the client was shown last are
those of that text, or none if there is no text. The text is the one that full synchronisation
prescribes, in every state that is passed, exactly if every change with texts comes for an open
document and has its last text in front. -/
theorem work_on_lastText (settings : Settings) (options? : Option Json)
    (events : List (Host × Call)) (u : Uri) :
    let t := after settings options? events
    let w := t.session.workspace
    let calls := handled (events.map Prod.snd)
    w.content? u = (lastText? u calls).map (·.content) ∧
      (∀ texts : TextStore, (texts.get? u).map (·.content) = (lastText? u calls).map (·.content) →
        ∀ host call, call.Asks u →
          (Session.answer (w.withTexts texts) host call).1 = (Session.answer w host call).1 ∧
          (Session.answer (w.withTexts texts) host call).2.1 =
            (Session.answer w host call).2.1) ∧
      (∀ d, lastText? u calls = some d →
        ∃ schemata?, t.shown? u = some (.ofText u d schemata?)) ∧
      (lastText? u calls = none →
        t.shown? u = none ∨ t.shown? u = some (.diagnostics u [] none)) ∧
      ((∀ front, front <+: events →
          (after settings options? front).session.workspace.content? u =
            prescribed? u (handled (front.map Prod.snd))) ↔
        ∀ front call, front ++ [call] <+: calls →
          call.KeepsTo u (prescribed? u front).isSome) := by
  intro t w calls
  have hfollows : t.Follows u calls := follows_after settings options? events u
  have hcontent : w.content? u = (lastText? u calls).map (·.content) :=
    content?_after settings options? events u
  refine ⟨hcontent, ?_, ?_, ?_, ?_⟩
  · intro texts htexts host call hasks
    exact Session.answer_withTexts (htexts.trans hcontent.symm) host hasks
  · -- a text has been told about, so something is shown, and it is about that text
    intro d hd
    cases hshown : t.shown? u with
    | none => exact absurd (hd.symm.trans (hfollows.told hshown)) (by simp)
    | some n =>
      have hn := hfollows.shown n hshown
      rw [hd] at hn
      obtain ⟨schemata?, rfl⟩ := hn
      exact ⟨schemata?, rfl⟩
  · intro hnone
    cases hshown : t.shown? u with
    | none => exact .inl rfl
    | some n =>
      have hn := hfollows.shown n hshown
      rw [hnone] at hn
      exact .inr (congrArg some hn)
  · simp only [content?_after]
    exact (forall_handled_iff events).trans (lastText?_eq_prescribed?_iff u calls)

/-- Of two texts in one change the first stays, and a change of a document that is not open opens
it. -/
theorem first_text_of_change_stays :
    let u : Uri := ⟨"file", some "", none, "/notes.yaml", ""⟩
    let twice : List Call :=
      [.opened "file:///notes.yaml" "a: 1" 1, .changed "file:///notes.yaml" ["b: 1", "c: 1"] 2]
    let unopened : List Call := [.changed "file:///notes.yaml" ["a: 1"] 1]
    let content? (calls : List Call) :=
      (after .default none (calls.map fun call => (default, call))).session.workspace.content? u
    (content? twice = some "b: 1" ∧ prescribed? u twice = some "c: 1") ∧
      content? unopened = some "a: 1" ∧ prescribed? u unopened = none := by
  simp only [content?_after]
  decide

end Transcript

end PrimitiveDesk
