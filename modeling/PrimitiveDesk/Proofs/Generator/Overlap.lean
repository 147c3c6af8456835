import PrimitiveDesk.Generator.Daemon
import PrimitiveDesk.Proofs.Run

/-!
# Requests that overlap

Any number of callers may send requests to one generator, while one reader listens to its output,
another to its error output, and somebody may stop it. A `Port` is what they share, and an
`Exchange` adds how far every call has got. A call claims the generator, waits until it may use the
input, writes its line, gives the input back, waits for a sign that the generator is idle, and
looks at the readers to tell whether the generator still runs. Without other calls in between that
is what `Daemon.generate` does (`Exchange.exists_uninterrupted`).

In every run no more requests are written than signs were given, a call that finds the generator
busy changes nothing, and a call that is served has waited for a sign given after its own claim
(`Exchange.run?_exclusive`).
-/

namespace PrimitiveDesk

/-- How far the reader of a stream has got. -/
inductive Reader where
  | reading
  /-- It has noted that the stream is over. -/
  | ended
  | gone
deriving DecidableEq, Repr, Inhabited

/-- What the callers, the readers and the one who stops the generator share. -/
structure Port where
  flag : IdleFlag
  /-- Whether no call holds the input. -/
  inputFree : Bool
  /-- The lines whose writing was started, in order. -/
  sent : List String
  /-- The readers of the output and, at `true`, of the error output. -/
  readers : Bool → Reader
  /-- Whether the readers were told to stop. -/
  aborted : Bool

/-- How far a call has got. -/
inductive CallStage where
  | called
  | claimed
  /-- It holds the input, and has started to write. -/
  | writing
  /-- It is done writing, and still holds the input. -/
  | written (fault? : Option SystemError)
  | waiting
  | woken
  | returned (result : Except GeneratorError Outcome)
deriving Repr, Inhabited

/-- A piece of the work of a call. -/
inductive CallMove where
  | claim
  | startWrite
  | failWrite (cause : SystemError)
  | endWrite
  | release
  | wake
  | report
deriving DecidableEq, Repr, Inhabited

/-- What happens outside the calls. -/
inductive OuterMove where
  /-- A reader takes a line. -/
  | hear (errors : Bool) (line : String)
  /-- A reader finds that its stream is over, or that it cannot be read. -/
  | close (errors : Bool)
  | leave (errors : Bool)
  /-- The readers are told to stop. -/
  | abort
  | shutdown
deriving DecidableEq, Repr, Inhabited

/-- What happens next: a new call, a piece of the work of a call, or something outside. -/
inductive Move where
  | call (r : Request)
  /-- The call with this number goes on. -/
  | ofCall (i : Nat) (m : CallMove)
  | outer (m : OuterMove)
deriving DecidableEq, Repr, Inhabited

/-- The signs of idleness that a move of a call gives. -/
def CallMove.signs : CallMove → List IdleEvent
  | failWrite _ => [.failedWrite]
  | _ => []

/-- The signs of idleness that a move outside the calls gives. -/
def OuterMove.signs : OuterMove → List IdleEvent
  | hear errors line => (lineEvent? errors line).toList
  | close _ => [.streamEnd]
  | shutdown => [.shutdown]
  | _ => []

/-- The signs of idleness that a move gives. -/
def Move.signs : Move → List IdleEvent
  | call _ => []
  | ofCall _ m => m.signs
  | outer m => m.signs

namespace Port

/-- The port of a generator that was just started. -/
def start : Port := ⟨.busy, true, [], fun _ => .reading, false⟩

/-- Whether both readers are gone. -/
def isOver (p : Port) : Bool := p.readers false == .gone && p.readers true == .gone

/-- A move of a call for a request. -/
def call? (p : Port) (r : Request) : CallStage → CallMove → Option (Port × CallStage)
  | .called, .claim =>
    match p.flag.claim? with
    | some flag => some ({ p with flag }, .claimed)
    | none => some (p, .returned (.ok .alreadyActive))
  | .claimed, .startWrite =>
    if p.inputFree then
      some ({ p with inputFree := false, sent := p.sent ++ [r.line] }, .writing)
    else none
  | .writing, .failWrite cause =>
    some ({ p with flag := p.flag.observe .failedWrite }, .written (some cause))
  | .writing, .endWrite => some (p, .written none)
  | .written (some cause), .release =>
    some ({ p with inputFree := true }, .returned (.error (.write cause)))
  | .written none, .release => some ({ p with inputFree := true }, .waiting)
  | .waiting, .wake => if p.flag.isIdle then some (p, .woken) else none
  | .woken, .report =>
    some (p, .returned (if p.isOver then .error .exited else .ok .generated))
  | _, _ => none

/-- The port with the reader of a stream at another place. -/
def setReader (p : Port) (errors : Bool) (reader : Reader) : Port :=
  { p with readers := fun e => if e = errors then reader else p.readers e }

/-- A move outside the calls. -/
def outer? (p : Port) : OuterMove → Option Port
  | .hear errors line =>
    if p.readers errors = .reading then
      some { p with flag := p.flag.observeAll (lineEvent? errors line).toList }
    else none
  | .close errors =>
    if p.readers errors = .reading then
      some ({ p with flag := p.flag.observe .streamEnd }.setReader errors .ended)
    else none
  | .leave errors =>
    -- a reader that was told to stop may be gone at any time
    if p.readers errors = .ended ∨ p.aborted then some (p.setReader errors .gone) else none
  | .abort => some { p with aborted := true }
  | .shutdown => if p.aborted then some { p with flag := p.flag.observe .shutdown } else none

end Port

/-- The port with the calls that were made, in order. -/
structure Exchange where
  port : Port
  calls : List (Request × CallStage)

namespace Exchange

/-- The exchange of a generator that was just started, without calls. -/
def start : Exchange := ⟨.start, []⟩

/-- The state after a move. -/
def step? (x : Exchange) : Move → Option Exchange
  | .call r => some { x with calls := x.calls ++ [(r, .called)] }
  | .ofCall i m =>
    match x.calls[i]? with
    | none => none
    | some (r, stage) =>
      (x.port.call? r stage m).map fun (port, stage) => ⟨port, x.calls.set i (r, stage)⟩
  | .outer m => (x.port.outer? m).map fun port => { x with port }

end Exchange

/-! ## What a move does to the port -/

/-- Signs set the flag; without one it stays as it is. -/
private theorem IdleFlag.observeAll_eq (f : IdleFlag) (events : List IdleEvent) :
    f.observeAll events = if events = [] then f else ⟨true⟩ := by
  induction events generalizing f with
  | nil => rfl
  | cons e events ih =>
    show (f.observe e).observeAll events = _
    rw [ih]
    simp [observe]

/-- One if the call has a claim that it has not used: its request is not being written yet. -/
def CallStage.credit : CallStage → Nat
  | claimed => 1
  | _ => 0

/-- Whether the call has claimed the generator and has not seen a sign yet. -/
def CallStage.holds : CallStage → Bool
  | claimed | writing | written _ | waiting => true
  | _ => false

/-- Whether the call has seen a sign, and did not find the generator gone. -/
def CallStage.served : CallStage → Bool
  | woken | returned (.ok .generated) => true
  | _ => false

namespace Port

variable {p p' : Port} {r : Request} {stage stage' : CallStage} {m : CallMove} {o : OuterMove}

/-- The moves of a call, each with what makes it possible. -/
inductive CallStep (p : Port) (r : Request) : CallStage → CallMove → Port → CallStage → Prop
  | claim (hidle : p.flag.isIdle = true) :
    CallStep p r .called .claim { p with flag := .busy } .claimed
  | refuse (hbusy : p.flag.isIdle = false) :
    CallStep p r .called .claim p (.returned (.ok .alreadyActive))
  | startWrite (hfree : p.inputFree = true) :
    CallStep p r .claimed .startWrite
      { p with inputFree := false, sent := p.sent ++ [r.line] } .writing
  | failWrite (cause : SystemError) :
    CallStep p r .writing (.failWrite cause)
      { p with flag := p.flag.observe .failedWrite } (.written (some cause))
  | endWrite : CallStep p r .writing .endWrite p (.written none)
  | fail (cause : SystemError) :
    CallStep p r (.written (some cause)) .release { p with inputFree := true }
      (.returned (.error (.write cause)))
  | release : CallStep p r (.written none) .release { p with inputFree := true } .waiting
  | wake (hidle : p.flag.isIdle = true) : CallStep p r .waiting .wake p .woken
  | report : CallStep p r .woken .report p
      (.returned (if p.isOver then .error .exited else .ok .generated))

/-- `Port.call?` makes these moves only. -/
private theorem callStep_of_call? (h : p.call? r stage m = some (p', stage')) :
    CallStep p r stage m p' stage' := by
  unfold call? at h
  split at h
  · -- the first move: the flag decides whether the call is refused
    unfold IdleFlag.claim? at h
    cases hidle : p.flag.isIdle <;> simp only [hidle] at h <;> cases h
    · exact .refuse hidle
    · exact .claim hidle
  · split at h <;> cases h
    exact .startWrite ‹_›
  · cases h
    exact .failWrite _
  · cases h
    exact .endWrite
  · cases h
    exact .fail _
  · cases h
    exact .release
  · split at h <;> cases h
    exact .wake ‹_›
  · cases h
    exact .report
  · cases h

/-- A move outside the calls starts no writing, and changes the flag by its signs alone. -/
theorem outer?_spec (h : p.outer? o = some p') :
    p'.sent = p.sent ∧ p'.flag = p.flag.observeAll o.signs := by
  unfold outer? at h
  split at h
  · split at h <;> cases h
    exact ⟨rfl, rfl⟩
  · split at h <;> cases h
    exact ⟨rfl, rfl⟩
  · split at h <;> cases h
    exact ⟨rfl, rfl⟩
  · cases h
    exact ⟨rfl, rfl⟩
  · split at h <;> cases h
    exact ⟨rfl, rfl⟩

/-- One if the flag can be claimed. -/
def credit (p : Port) : Nat := p.flag.isIdle.toNat

/-- What is written and what may still be written grows only by signs: a claim takes the flag's
credit, the start of the writing takes the call's. -/
private theorem CallStep.credit_le (h : CallStep p r stage m p' stage') :
    p'.sent.length + p'.credit + stage'.credit ≤
      p.sent.length + p.credit + stage.credit + m.signs.length := by
  cases h with
  | claim hidle => simp [Port.credit, CallStage.credit, hidle, IdleFlag.busy]
  | failWrite cause =>
    simp [Port.credit, CallStage.credit, CallMove.signs, IdleFlag.observe]
  | startWrite hfree => simp [Port.credit, CallStage.credit]; omega
  | _ => simp [Port.credit, CallStage.credit]

/-- A call does not come back to its beginning. -/
private theorem CallStep.ne_called (h : CallStep p r stage m p' stage') : stage' ≠ .called := by
  cases h <;> simp

/-- A call is refused at its beginning, and leaves the port as it is. -/
private theorem CallStep.of_alreadyActive
    (h : CallStep p r stage m p' (.returned (.ok .alreadyActive))) : stage = .called ∧ p' = p := by
  generalize hstage' : CallStage.returned (.ok .alreadyActive) = stage' at h
  cases h with
  | refuse hbusy => exact ⟨rfl, rfl⟩
  | report => split at hstage' <;> simp at hstage'
  | _ => simp at hstage'

/-- A call comes to hold the generator by claiming it, which takes the flag. -/
private theorem CallStep.of_holds (h : CallStep p r stage m p' stage')
    (hstage : stage.holds = false) (hstage' : stage'.holds = true) :
    m = .claim ∧ p.flag.isIdle = true ∧ p'.flag.isIdle = false := by
  cases h with
  | claim hidle => exact ⟨rfl, hidle, rfl⟩
  | _ => simp [CallStage.holds] at hstage hstage'

/-- A call is served by waking up, when the flag is set. -/
private theorem CallStep.of_served (h : CallStep p r stage m p' stage')
    (hstage : stage.served = false) (hstage' : stage'.served = true) :
    m = .wake ∧ p.flag.isIdle = true ∧ stage.holds = true := by
  cases h with
  | wake hidle => exact ⟨rfl, hidle, rfl⟩
  | _ => simp [CallStage.served] at hstage hstage'

/-- A move of a call that sets the flag gives a sign. -/
private theorem CallStep.of_isIdle (h : CallStep p r stage m p' stage') (hp : p.flag.isIdle = false)
    (hp' : p'.flag.isIdle = true) : m.signs ≠ [] := by
  cases h with
  | failWrite cause => simp [CallMove.signs]
  | claim hidle => simp [IdleFlag.busy] at hp'
  | _ => simp [hp] at hp'

/-- Outside the calls, what may be written grows only by signs. -/
private theorem credit_outer?_le (h : p.outer? o = some p') :
    p'.sent.length + p'.credit ≤ p.sent.length + p.credit + o.signs.length := by
  obtain ⟨hsent, hflag⟩ := outer?_spec h
  rw [IdleFlag.observeAll_eq] at hflag
  split at hflag
  · simp [credit, hsent, hflag]
  · -- the flag is set at most once, whatever the number of signs
    have hone : 0 < o.signs.length := List.length_pos_iff.mpr ‹_›
    simp [credit, hsent, hflag]
    omega

end Port

/-! ## What a move does to the exchange -/

namespace Exchange

variable {x x' : Exchange} {m : Move} {moves : List Move} {i : Nat}

/-- How far the call with this number has got. -/
def stage? (x : Exchange) (i : Nat) : Option CallStage := x.calls[i]?.map Prod.snd

/-- A move of a call changes the port and the stage of that call. -/
private theorem step?_ofCall {cm : CallMove} (h : x.step? (.ofCall i cm) = some x') :
    ∃ r stage stage', x.calls[i]? = some (r, stage) ∧
      Port.CallStep x.port r stage cm x'.port stage' ∧ x'.calls = x.calls.set i (r, stage') := by
  simp only [step?] at h
  split at h
  · cases h
  · next r stage hcall =>
    obtain ⟨⟨port, stage'⟩, hstep, rfl⟩ := Option.map_eq_some_iff.mp h
    exact ⟨r, stage, stage', hcall, Port.callStep_of_call? hstep, rfl⟩

/-- A move outside the calls changes the port alone. -/
private theorem step?_outer {om : OuterMove} (h : x.step? (.outer om) = some x') :
    x.port.outer? om = some x'.port ∧ x'.calls = x.calls := by
  obtain ⟨port, hstep, rfl⟩ := Option.map_eq_some_iff.mp h
  exact ⟨hstep, rfl⟩

/-- Before and after a move of a call, the call has a stage. -/
private theorem step?_ofCall_stage? {cm : CallMove} (h : x.step? (.ofCall i cm) = some x') :
    ∃ r stage stage', x.stage? i = some stage ∧ Port.CallStep x.port r stage cm x'.port stage' ∧
      x'.stage? i = some stage' := by
  obtain ⟨r, stage, stage', hcall, hstep, hcalls⟩ := step?_ofCall h
  have hlt : i < x.calls.length := (List.getElem?_eq_some_iff.mp hcall).1
  exact ⟨r, stage, stage', by simp [stage?, hcall], hstep,
    by simp [stage?, hcalls, List.getElem?_set_self hlt]⟩

/-- A move leaves a call where it is, makes it, or is its own. -/
theorem step?_stage? (h : x.step? m = some x') (i : Nat) :
    x'.stage? i = x.stage? i ∨ (x.stage? i = none ∧ x'.stage? i = some .called) ∨
      ∃ cm, m = .ofCall i cm := by
  cases m with
  | call r =>
    cases h
    -- the new call stands behind all others
    by_cases hi : i < x.calls.length
    · exact .inl (by simp [stage?, List.getElem?_append_left hi])
    · have hnone : x.calls[i]? = none := List.getElem?_eq_none (by omega)
      by_cases hlast : i = x.calls.length
      · exact .inr (.inl (by simp [stage?, hlast]))
      · have hpast : (x.calls ++ [(r, .called)])[i]? = none :=
          List.getElem?_eq_none (by simp; omega)
        exact .inl (by simp [stage?, hnone, hpast])
  | ofCall j cm =>
    by_cases hj : j = i
    · exact .inr (.inr ⟨cm, by rw [hj]⟩)
    · obtain ⟨r, stage, stage', -, -, hcalls⟩ := step?_ofCall h
      exact .inl (by simp [stage?, hcalls, List.getElem?_set_ne hj])
  | outer om =>
    obtain ⟨-, hcalls⟩ := step?_outer h
    exact .inl (by simp [stage?, hcalls])

/-- The call with this number is at a place of this kind. -/
def AtStage (P : CallStage → Prop) (i : Nat) (x : Exchange) : Prop :=
  ∃ stage, x.stage? i = some stage ∧ P stage

/-- A call gets to a place other than its beginning by a move of its own. -/
theorem exists_callStep_of_run? {P : CallStage → Prop} (hcalled : ¬ P .called)
    (h : run? step? x moves = some x') (hx : ¬ x.AtStage P i) (hx' : x'.AtStage P i) :
    ∃ front cm back y y' r stage stage', moves = front ++ .ofCall i cm :: back ∧
      run? step? x front = some y ∧ run? step? y' back = some x' ∧ y.stage? i = some stage ∧
      ¬ P stage ∧ P stage' ∧ Port.CallStep y.port r stage cm y'.port stage' := by
  obtain ⟨front, m, back, y, y', rfl, hfront, hm, hback, hy, stage', hstage', hP⟩ :=
    exists_gain_of_run? (P := AtStage P i) h hx hx'
  obtain hsame | ⟨-, hnew⟩ | ⟨cm, rfl⟩ := step?_stage? hm i
  · exact absurd ⟨stage', hsame ▸ hstage', hP⟩ hy
  · obtain rfl := Option.some.inj (hnew.symm.trans hstage')
    exact absurd hP hcalled
  · obtain ⟨r, stage, st', hstage, hstep, hst'⟩ := step?_ofCall_stage? hm
    obtain rfl := Option.some.inj (hst'.symm.trans hstage')
    exact ⟨front, cm, back, y, y', r, stage, st', rfl, hfront, hback, hstage,
      fun hP' => hy ⟨stage, hstage, hP'⟩, hP, hstep⟩

/-! ## Every request has its sign -/

/-- How many of the calls have a claim that they have not used. -/
def pledged : List (Request × CallStage) → Nat
  | [] => 0
  | (_, stage) :: calls => stage.credit + pledged calls

/-- Claims of some calls and of others. -/
private theorem pledged_append (calls more : List (Request × CallStage)) :
    pledged (calls ++ more) = pledged calls + pledged more := by
  induction calls with
  | nil => simp [pledged]
  | cons c calls ih => simp [pledged, ih, Nat.add_assoc]

/-- The claims when one call goes on. -/
private theorem pledged_set {calls : List (Request × CallStage)} {r : Request} {stage : CallStage}
    (h : calls[i]? = some (r, stage)) (stage' : CallStage) :
    pledged (calls.set i (r, stage')) + stage.credit = pledged calls + stage'.credit := by
  induction calls generalizing i with
  | nil => simp at h
  | cons c calls ih =>
    cases i with
    | zero =>
      obtain rfl : c = (r, stage) := by simpa using h
      simp only [List.set_cons_zero, pledged]
      omega
    | succ i =>
      have hset := ih (i := i) (by simpa using h)
      simp only [List.set_cons_succ, pledged]
      omega

/-- The requests that are written, with those that still may be. -/
def spent (x : Exchange) : Nat := x.port.sent.length + x.port.credit + pledged x.calls

/-- One move brings no more requests than signs. -/
private theorem spent_step?_le (h : x.step? m = some x') : x'.spent ≤ x.spent + m.signs.length := by
  cases m with
  | call r =>
    cases h
    simp [spent, pledged_append, pledged, CallStage.credit, Move.signs]
  | ofCall i cm =>
    obtain ⟨r, stage, stage', hcall, hstep, hcalls⟩ := step?_ofCall h
    -- the port and the call change together, so that the sum is compared
    have hport := hstep.credit_le
    have hset := pledged_set hcall stage'
    simp only [spent, hcalls, Move.signs]
    omega
  | outer om =>
    obtain ⟨hstep, hcalls⟩ := step?_outer h
    have hport := Port.credit_outer?_le hstep
    simp only [spent, hcalls, Move.signs]
    omega

/-- A run brings no more requests than signs. -/
theorem spent_run?_le (h : run? step? start moves = some x) :
    x.spent ≤ (moves.flatMap Move.signs).length := by
  refine run?_induction (P := fun moves x => x.spent ≤ (moves.flatMap Move.signs).length)
    (Nat.le_refl 0) ?_ h
  intro moves m t t' _ ht hstep
  have hspent := spent_step?_le hstep
  simp only [List.flatMap_append, List.length_append, List.flatMap_singleton]
  omega

/-! ## A call that is refused, and a call that is served -/

/-- A call that has moved is never at its beginning again. -/
private theorem atStage_ne_called_of_run? (hx : x.AtStage (· ≠ .called) i)
    (h : run? step? x moves = some x') : x'.AtStage (· ≠ .called) i := by
  refine run?_induction (P := fun _ x => x.AtStage (· ≠ .called) i) hx ?_ h
  rintro - m t t' - ⟨stage, hstage, hne⟩ hstep
  obtain hsame | ⟨hnone, -⟩ | ⟨cm, rfl⟩ := step?_stage? hstep i
  · exact ⟨stage, hsame.trans hstage, hne⟩
  · simp [hnone] at hstage
  · obtain ⟨r, st, st', -, hcall, hst'⟩ := step?_ofCall_stage? hstep
    exact ⟨st', hst', hcall.ne_called⟩

/-- A call that finds the generator busy does so in its only move, which changes nothing that is
shared. -/
theorem port_eq_of_alreadyActive {cm : CallMove} (hstep : x.step? (.ofCall i cm) = some x')
    {y : Exchange} (hrun : run? step? x' moves = some y)
    (hy : y.stage? i = some (.returned (.ok .alreadyActive))) : x'.port = x.port := by
  obtain ⟨r, stage, stage', -, hcall, hstage'⟩ := step?_ofCall_stage? hstep
  by_cases hrefused : x'.AtStage (· = .returned (.ok .alreadyActive)) i
  · obtain ⟨_, hst, rfl⟩ := hrefused
    obtain rfl := Option.some.inj (hstage'.symm.trans hst)
    exact hcall.of_alreadyActive.2
  · -- otherwise the call is refused later, from its beginning, which it has left
    obtain ⟨front, cm', back, t, t', r', st, st', rfl, hfront, -, hst, -, rfl, hcall'⟩ :=
      exists_callStep_of_run? (by simp) hrun hrefused ⟨_, hy, rfl⟩
    obtain ⟨st'', hst'', hne⟩ :=
      atStage_ne_called_of_run? ⟨stage', hstage', hcall.ne_called⟩ hfront
    obtain rfl := Option.some.inj (hst.symm.trans hst'')
    exact absurd hcall'.of_alreadyActive.1 hne

/-- A generator that is busy stays so without a sign. -/
private theorem signs_ne_nil_of_isIdle (h : x.step? m = some x') (hx : ¬ x.port.flag.isIdle = true)
    (hx' : x'.port.flag.isIdle = true) : m.signs ≠ [] := by
  cases m with
  | call r =>
    cases h
    exact absurd hx' hx
  | ofCall i cm =>
    obtain ⟨r, stage, stage', -, hcall, -⟩ := step?_ofCall h
    exact hcall.of_isIdle (by simpa using hx) hx'
  | outer om =>
    obtain ⟨hstep, -⟩ := step?_outer h
    intro hsigns
    rw [(Port.outer?_spec hstep).2, show om.signs = [] from hsigns] at hx'
    exact hx hx'

/-- A call that is served has claimed the idle generator, and was woken after a sign that came
between. -/
theorem exists_sign_of_generated (h : run? step? start moves = some x)
    (hx : x.stage? i = some (.returned (.ok .generated))) :
    ∃ front y mid back, moves = front ++ .ofCall i .claim :: (mid ++ .ofCall i .wake :: back) ∧
      run? step? start front = some y ∧ y.port.flag.isIdle = true ∧ ∃ m ∈ mid, m.signs ≠ [] := by
  have hnone {P} : ¬ start.AtStage P i := by simp [AtStage, start, stage?]
  -- the move that wakes the call
  obtain ⟨front, cm, back, t, t', r, st, st', rfl, hfront, -, hst, hst0, hst1, hwake⟩ :=
    exists_callStep_of_run? (P := (·.served = true)) (by simp [CallStage.served]) h hnone
      ⟨_, hx, rfl⟩
  obtain ⟨rfl, hidle, hholds⟩ := hwake.of_served (by simpa using hst0) hst1
  -- before it, the move with which the call claims the generator
  obtain ⟨front, cm, mid, u, u', r', st, st', rfl, hfront', hmid, -, hst0, hst1, hclaim⟩ :=
    exists_callStep_of_run? (P := (·.holds = true)) (by simp [CallStage.holds]) hfront hnone
      ⟨_, hst, hholds⟩
  obtain ⟨rfl, hidle', hbusy⟩ := hclaim.of_holds (by simpa using hst0) hst1
  -- and between them the move that sets the flag again
  obtain ⟨mid₀, m, mid₁, v, v', rfl, -, hv, -, hv0, hv1⟩ :=
    exists_gain_of_run? (P := (·.port.flag.isIdle = true)) hmid (by simp [hbusy]) hidle
  exact ⟨front, u, mid₀ ++ m :: mid₁, back, by simp, hfront', hidle', m, by simp,
    signs_ne_nil_of_isIdle hv hv0 hv1⟩

/-! ## A call that no other comes between -/

/-- A call that stands at some stage goes on from there. -/
private theorem step?_set {p p' : Port} {calls : List (Request × CallStage)} {r : Request}
    {stage stage' : CallStage} {cm : CallMove} (hi : i < calls.length)
    (h : p.call? r stage cm = some (p', stage')) :
    step? ⟨p, calls.set i (r, stage)⟩ (.ofCall i cm) = some ⟨p', calls.set i (r, stage')⟩ := by
  simp [step?, List.getElem?_set_self hi, h]

/-- Moves outside the calls leave the calls where they are. -/
private theorem run?_outer {p p' : Port} (calls : List (Request × CallStage))
    {heard : List OuterMove} (h : run? Port.outer? p heard = some p') :
    run? step? ⟨p, calls⟩ (heard.map .outer) = some ⟨p', calls⟩ := by
  induction heard generalizing p with
  | nil =>
    cases h
    rfl
  | cons m heard ih =>
    obtain ⟨q, hm, hrest⟩ := run?_cons.mp h
    refine run?_cons.mpr ⟨⟨q, calls⟩, ?_, ih hrest⟩
    simp [step?, hm]

variable {p p' : Port} {calls : List (Request × CallStage)} {r : Request} {heard : List OuterMove}

/-- A call that finds the generator busy is refused at once. -/
private theorem run?_refused (hi : i < calls.length) (hbusy : p.flag.isIdle = false) :
    run? step? ⟨p, calls.set i (r, .called)⟩ [.ofCall i .claim] =
      some ⟨p, calls.set i (r, .returned (.ok .alreadyActive))⟩ := by
  have hclaim : p.call? r .called .claim = some (p, .returned (.ok .alreadyActive)) := by
    simp [Port.call?, IdleFlag.claim?, hbusy]
  exact run?_cons.mpr ⟨_, step?_set hi hclaim, rfl⟩

/-- The port while a call that has claimed the generator writes its line. -/
def duringWrite (p : Port) (r : Request) : Port :=
  { p with flag := .busy, inputFree := false, sent := p.sent ++ [r.line] }

/-- A call that claims the generator starts to write its line. -/
private theorem run?_write (hi : i < calls.length) (hidle : p.flag.isIdle = true)
    (hfree : p.inputFree = true) :
    run? step? ⟨p, calls.set i (r, .called)⟩ [.ofCall i .claim, .ofCall i .startWrite] =
      some ⟨duringWrite p r, calls.set i (r, .writing)⟩ := by
  have hclaim : p.call? r .called .claim = some ({ p with flag := .busy }, .claimed) := by
    simp [Port.call?, IdleFlag.claim?, hidle]
  have hstart : Port.call? { p with flag := .busy } r .claimed .startWrite =
      some (duringWrite p r, .writing) := by
    simp [Port.call?, hfree, duringWrite]
  exact run?_cons.mpr ⟨_, step?_set hi hclaim, run?_cons.mpr ⟨_, step?_set hi hstart, rfl⟩⟩

/-- The port once the call has written its line and given the input back. -/
def afterWrite (p : Port) (r : Request) : Port :=
  { duringWrite p r with inputFree := true }

/-- A call that has written its line reports as soon as the flag is set again. -/
private theorem run?_served (hi : i < calls.length) (hidle : p.flag.isIdle = true)
    (hfree : p.inputFree = true) (hheard : run? Port.outer? (afterWrite p r) heard = some p')
    (hidle' : p'.flag.isIdle = true) :
    run? step? ⟨p, calls.set i (r, .called)⟩
        ([.ofCall i .claim, .ofCall i .startWrite] ++ ([.ofCall i .endWrite, .ofCall i .release] ++
          (heard.map .outer ++ [.ofCall i .wake, .ofCall i .report]))) =
      some ⟨p', calls.set i
        (r, .returned (if p'.isOver then .error .exited else .ok .generated))⟩ := by
  have hrelease : run? step? ⟨duringWrite p r, calls.set i (r, .writing)⟩
      [.ofCall i .endWrite, .ofCall i .release] =
        some ⟨afterWrite p r, calls.set i (r, .waiting)⟩ :=
    run?_cons.mpr ⟨_, step?_set hi rfl, run?_cons.mpr ⟨_, step?_set hi rfl, rfl⟩⟩
  have hwake : p'.call? r .waiting .wake = some (p', .woken) := by simp [Port.call?, hidle']
  refine run?_append.mpr ⟨_, run?_write hi hidle hfree, run?_append.mpr ⟨_, hrelease, ?_⟩⟩
  refine run?_append.mpr ⟨_, run?_outer _ hheard, ?_⟩
  exact run?_cons.mpr ⟨_, step?_set hi hwake, run?_cons.mpr ⟨_, step?_set hi rfl, rfl⟩⟩

/-- The lines that a call with a result has started to write. -/
def startedLines (r : Request) : Except GeneratorError Outcome → List String
  | .ok .alreadyActive => []
  | _ => [r.line]

/-- A call whose line cannot be written sets the flag again and reports the fault. -/
private theorem run?_failed (hi : i < calls.length) (hidle : p.flag.isIdle = true)
    (hfree : p.inputFree = true) (cause : SystemError) :
    run? step? ⟨p, calls.set i (r, .called)⟩ ([.ofCall i .claim, .ofCall i .startWrite] ++
        [.ofCall i (.failWrite cause), .ofCall i .release]) =
      some ⟨{ afterWrite p r with flag := ⟨true⟩ },
        calls.set i (r, .returned (.error (.write cause)))⟩ := by
  refine run?_append.mpr ⟨_, run?_write hi hidle hfree, ?_⟩
  exact run?_cons.mpr ⟨_, step?_set hi rfl, run?_cons.mpr ⟨_, step?_set hi rfl, rfl⟩⟩

/-- The ways in which `Daemon.generate` ends: the generator is busy, it cannot be written to, or it
is waited for. -/
theorem generate_cases {d d' : Daemon} {tree tree' : FileTree}
    {result : Except GeneratorError Outcome} (h : d.generate tree r = (result, d', tree')) :
    (d.flag.isIdle = false ∧ result = .ok .alreadyActive ∧ d' = d) ∨
      (d.flag.isIdle = true ∧ result = .error (.write .brokenPipe) ∧ d'.flag = ⟨true⟩) ∨
      (d.flag.isIdle = true ∧
        result = if d'.process.trace.standing.isOver then .error .exited else .ok .generated) := by
  unfold Daemon.generate IdleFlag.claim? at h
  cases hidle : d.flag.isIdle with
  | false =>
    simp only [hidle, Bool.false_eq_true, if_false, Prod.mk.injEq] at h
    exact .inl ⟨rfl, h.1.symm, h.2.1.symm⟩
  | true =>
    simp only [hidle, if_true] at h
    split at h
    · obtain ⟨rfl, rfl, -⟩ := Prod.mk.injEq .. ▸ h
      exact .inr (.inl ⟨rfl, rfl, rfl⟩)
    · -- a request was written; how it ends is told by the generator's standing afterwards
      split at h
      · next hover =>
        cases h
        exact .inr (.inr ⟨rfl, (if_pos hover).symm⟩)
      · next hover =>
        cases h
        exact .inr (.inr ⟨rfl, (if_neg hover).symm⟩)

/-- If no other call comes between, a call does what `Daemon.generate` does, provided that the moves
`heard` outside the calls bring the readers to where `Daemon.ready` finds the generator. It has the
same result, leaves the same flag, and has started to write its line unless it is refused. -/
theorem exists_uninterrupted {d d' : Daemon} {tree tree' : FileTree}
    {result : Except GeneratorError Outcome} (hcall : x.calls[i]? = some (r, .called))
    (hflag : x.port.flag = d.flag) (hfree : x.port.inputFree = true)
    (hheard : run? Port.outer? (afterWrite x.port r) heard = some p)
    (hover : p.isOver = d'.process.trace.standing.isOver) (hidle : p.flag.isIdle = true)
    (h : d.generate tree r = (result, d', tree')) (hready : d.isIdle = true → d'.isIdle = true) :
    ∃ moves x', run? step? x moves = some x' ∧
      (∀ m ∈ moves, (∃ cm, m = .ofCall i cm) ∨ ∃ o ∈ heard, m = .outer o) ∧
      x'.calls = x.calls.set i (r, .returned result) ∧ x'.port.flag = d'.flag ∧
      x'.port.sent = x.port.sent ++ startedLines r result := by
  obtain ⟨hi, hget⟩ := List.getElem?_eq_some_iff.mp hcall
  have hrun {moves : List Move} {x' : Exchange}
      (hmoves : run? step? ⟨x.port, x.calls.set i (r, .called)⟩ moves = some x') :
      run? step? x moves = some x' := by
    rwa [← hget, List.set_getElem_self] at hmoves
  have hsent : p.sent = x.port.sent ++ [r.line] := by
    refine run?_induction (P := fun _ p => p.sent = x.port.sent ++ [r.line]) rfl ?_ hheard
    intro _ _ _ _ _ ht hstep
    rw [(Port.outer?_spec hstep).1, ht]
  -- each of the ways in which `generate` ends has its run
  obtain ⟨hbusy, rfl, rfl⟩ | ⟨hidle', rfl, hflag'⟩ | ⟨hidle', rfl⟩ := generate_cases h
  · refine ⟨_, _, hrun (run?_refused hi (hflag ▸ hbusy)), by simp, rfl, hflag, ?_⟩
    exact (List.append_nil _).symm
  · exact ⟨_, _, hrun (run?_failed hi (hflag ▸ hidle') hfree .brokenPipe), by simp, rfl,
      hflag'.symm, rfl⟩
  · refine ⟨_, _, hrun (run?_served hi (hflag ▸ hidle') hfree hheard hidle), ?_, ?_, ?_, ?_⟩
    · have hown {a b : CallMove} {m : Move} (hm : m ∈ [Move.ofCall i a, .ofCall i b]) :
          ∃ cm, m = .ofCall i cm := by
        rcases List.mem_cons.mp hm with rfl | hm
        · exact ⟨a, rfl⟩
        · exact ⟨b, List.mem_singleton.mp hm⟩
      simp only [List.mem_append, List.mem_map]
      rintro m (hm | hm | ⟨o, ho, rfl⟩ | hm)
      · exact .inl (hown hm)
      · exact .inl (hown hm)
      · exact .inr ⟨o, ho, rfl⟩
      · exact .inl (hown hm)
    · rw [hover]
    · exact congrArg IdleFlag.mk (hidle.trans (hready hidle').symm)
    · rw [hsent]
      split <;> rfl

/-- In every run no more requests are written than signs of idleness were given. A call that
finds the generator busy changes nothing that is shared, neither the flag nor what is written, and
a call that is served was woken after a sign that was given after its own claim. -/
theorem run?_exclusive (h : run? step? start moves = some x) :
    x.port.sent.length ≤ (moves.flatMap Move.signs).length ∧
    (∀ i r, x.calls[i]? = some (r, .returned (.ok .alreadyActive)) →
      ∀ front cm back y y', moves = front ++ .ofCall i cm :: back →
        run? step? start front = some y → y.step? (.ofCall i cm) = some y' → y'.port = y.port) ∧
    (∀ i r, x.calls[i]? = some (r, .returned (.ok .generated)) →
      ∃ front y mid back, moves = front ++ .ofCall i .claim :: (mid ++ .ofCall i .wake :: back) ∧
        run? step? start front = some y ∧ y.port.flag.isIdle = true ∧
        ∃ m ∈ mid, m.signs ≠ []) := by
  refine ⟨?_, ?_, ?_⟩
  · -- every request was paid for by a sign
    have hspent := spent_run?_le h
    unfold spent at hspent
    omega
  · rintro i r hcall front cm back y y' rfl hfront hstep
    have hback := run?_behind h hfront hstep
    exact port_eq_of_alreadyActive hstep hback (by simp [stage?, hcall])
  · intro i r hcall
    exact exists_sign_of_generated h (by simp [stage?, hcall])

/-- Two calls overlap: the second finds the generator busy, the first is served. -/
def overlappingCalls : List Move :=
  [.call ⟨[], []⟩, .outer (.hear false "Ready"), .ofCall 0 .claim, .call ⟨["avx2"], []⟩,
   .ofCall 0 .startWrite, .ofCall 1 .claim, .ofCall 0 .endWrite, .ofCall 0 .release,
   .outer (.hear false "working"), .outer (.hear false "Done"), .ofCall 0 .wake, .ofCall 0 .report]

/-- The first call has the generator for itself until it is told that the work is done. -/
theorem overlappingCalls_exclusive :
    ∃ x, run? step? start overlappingCalls = some x ∧
      x.calls = [(⟨[], []⟩, .returned (.ok .generated)),
        (⟨["avx2"], []⟩, .returned (.ok .alreadyActive))] ∧
      x.port.sent.length ≤ 2 ∧
      ∃ front y mid back,
        overlappingCalls = front ++ .ofCall 0 .claim :: (mid ++ .ofCall 0 .wake :: back) ∧
        run? step? start front = some y ∧ y.port.flag.isIdle = true ∧ ∃ m ∈ mid, m.signs ≠ [] := by
  refine ⟨_, rfl, rfl, ?_⟩
  have h := run?_exclusive (show run? step? start overlappingCalls = some _ from rfl)
  exact ⟨h.1, h.2.2 0 _ rfl⟩

end Exchange

end PrimitiveDesk
