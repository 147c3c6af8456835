/-!
# Runs of a machine

Where parts of the program overlap in time, what they share is the state of a machine: a function
that gives, for a state and a move, the state that follows, or nothing where the move is not
possible. A run is a list of moves in the order in which they happen. A move is a piece of work
that nothing else can come between, so every way of overlapping is a run.
-/

namespace PrimitiveDesk

variable {σ μ : Type} {step? : σ → μ → Option σ} {s s' : σ} {front back moves : List μ}

/-- The state after moves of which each is possible in its turn. -/
def run? (step? : σ → μ → Option σ) (s : σ) (moves : List μ) : Option σ :=
  moves.foldlM step? s

/-- Without a move the state stays. -/
@[simp] theorem run?_nil : run? step? s [] = some s := rfl

/-- A run starts with its first move. -/
theorem run?_cons {m : μ} :
    run? step? s (m :: moves) = some s' ↔
      ∃ t, step? s m = some t ∧ run? step? t moves = some s' := by
  simp [run?, List.foldlM_cons, Option.bind_eq_some_iff]

/-- A run goes on from where its first part ended. -/
theorem run?_append :
    run? step? s (front ++ back) = some s' ↔
      ∃ t, run? step? s front = some t ∧ run? step? t back = some s' := by
  simp [run?, List.foldlM_append, Option.bind_eq_some_iff]

/-- A run ends with its last move. -/
theorem run?_concat {m : μ} :
    run? step? s (moves ++ [m]) = some s' ↔
      ∃ t, run? step? s moves = some t ∧ step? t m = some s' := by
  simp [run?_append, run?_cons]

/-- Behind a move whose state before and after it is known, the run goes on from there. -/
theorem run?_behind {m : μ} {t t' : σ} (h : run? step? s (front ++ m :: back) = some s')
    (hfront : run? step? s front = some t) (hm : step? t m = some t') :
    run? step? t' back = some s' := by
  obtain ⟨u, hu, hrest⟩ := run?_append.mp h
  obtain rfl := Option.some.inj (hfront.symm.trans hu)
  obtain ⟨u', hu', hback⟩ := run?_cons.mp hrest
  obtain rfl := Option.some.inj (hm.symm.trans hu')
  exact hback

/-- What holds before the first move, and is kept by every move after a run, holds after every
run. -/
theorem run?_induction {P : List μ → σ → Prop} (hstart : P [] s)
    (hstep : ∀ {moves m t t'}, run? step? s moves = some t → P moves t → step? t m = some t' →
      P (moves ++ [m]) t')
    (h : run? step? s moves = some s') : P moves s' := by
  -- the history grows at its end, so the induction takes the last move off
  induction hn : moves.length generalizing moves s' with
  | zero =>
    obtain rfl := List.length_eq_zero_iff.mp hn
    cases h
    exact hstart
  | succ n ih =>
    obtain ⟨front, m, rfl⟩ : ∃ front m, moves = front ++ [m] :=
      ⟨_, _, (List.dropLast_concat_getLast (List.ne_nil_of_length_eq_add_one hn)).symm⟩
    obtain ⟨t, hfront, hm⟩ := run?_concat.mp h
    exact hstep hfront (ih hfront (by simpa using hn)) hm

/-- What a state lacks and a later one has was gained in one of the moves between them. -/
theorem exists_gain_of_run? {P : σ → Prop} (h : run? step? s moves = some s') (hs : ¬ P s)
    (hs' : P s') :
    ∃ front m back t t', moves = front ++ m :: back ∧ run? step? s front = some t ∧
      step? t m = some t' ∧ run? step? t' back = some s' ∧ ¬ P t ∧ P t' := by
  induction moves generalizing s with
  | nil =>
    cases h
    exact absurd hs' hs
  | cons m moves ih =>
    obtain ⟨t, hm, hmoves⟩ := run?_cons.mp h
    by_cases ht : P t
    · exact ⟨[], m, moves, s, t, rfl, rfl, hm, hmoves, hs, ht⟩
    · obtain ⟨front, m', back, u, u', rfl, hfront, hm', hback, hu, hu'⟩ := ih hmoves ht
      exact ⟨m :: front, m', back, u, u', rfl, run?_cons.mpr ⟨t, hm, hfront⟩, hm', hback, hu, hu'⟩

/-- Where the parts of a state stand in a list, a step of one of them changes nothing before it and
nothing behind it. -/
theorem exists_split_of_getElem? {α : Type} {parts : List α} {i : Nat} {a : α}
    (h : parts[i]? = some a) :
    ∃ l r, parts = l ++ a :: r ∧ ∀ b, parts.set i b = l ++ b :: r := by
  obtain ⟨hi, hget⟩ := List.getElem?_eq_some_iff.mp h
  have hset (b : α) : parts.set i b = parts.take i ++ b :: parts.drop (i + 1) := by
    rw [List.set_eq_take_append_cons_drop, if_pos hi]
  refine ⟨parts.take i, parts.drop (i + 1), ?_, hset⟩
  rw [← hset, ← hget, List.set_getElem_self]

end PrimitiveDesk
