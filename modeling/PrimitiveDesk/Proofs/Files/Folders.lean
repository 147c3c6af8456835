import PrimitiveDesk.Files.Path

/-!
# The folders above a path

Going up from a path takes its last step away, however the path is written (`steps_parent?`). So the
folders above a path have the proper front parts of its steps, each of them once, and the nearest is
the longest.

`Path.folders` is the parent and the folders above the parent (`folders_of_parent?`), so that
results about it are proved by `parent?_induction`. Which folders there are is said by their steps,
in both directions (`exists_mem_folders`, `exists_steps_of_mem_folders`), and no two of them have
the same steps (`eq_of_mem_folders`).
-/

namespace PrimitiveDesk.Path

variable {p q r : Path} {name : String}

/-! ## Steps -/

/-- The `.` at the front of a path that starts there. -/
def dot (p : Path) : List String :=
  if p.rooted = false ∧ p.segments.head? = some "." then ["."] else []

/-- The `steps` of a path are the `.` at its front and those segments that are steps. -/
private theorem steps_eq (p : Path) : p.steps = p.dot ++ p.segments.filter isStep := by
  obtain ⟨rooted, segments⟩ := p
  unfold steps dot
  split
  -- only a path that is not rooted can start with a dot that counts
  · next rest hrooted hsegments =>
    have hdot : isStep "." = false := by decide
    have hsegments : segments = "." :: rest := hsegments
    rw [if_pos ⟨hrooted, by rw [hsegments]; rfl⟩, hsegments,
      List.filter_cons_of_neg (by simp [hdot])]
    rfl
  · next hnot =>
    rw [if_neg]
    · rfl
    · rintro ⟨hrooted, hhead⟩
      cases segments with
      | nil => cases hhead
      | cons s rest =>
        obtain rfl : s = "." := by simpa using hhead
        exact hnot rest hrooted rfl

/-- Only a path that does not start at the root has a `.` at its front. -/
private theorem dot_cases (p : Path) : p.dot = [] ∨ p.dot = ["."] ∧ p.rooted = false := by
  unfold dot
  split
  · next h => exact .inr ⟨rfl, h.1⟩
  · exact .inl rfl

private theorem dot_congr (hrooted : q.rooted = p.rooted)
    (hhead : q.segments.head? = p.segments.head?) :
    q.dot = p.dot := by
  rw [dot, dot, hrooted, hhead]

/-! ## The parent -/

/-- `trimmed` cuts off segments at the front that are no steps, and nothing that counts is lost. -/
private theorem trimmed_cases (reversed : List String) :
    trimmed reversed = [] ∧ reversed.filter isStep = [] ∨
      ∃ s rest, trimmed reversed = s :: rest ∧ isStep s = true ∧ s :: rest <:+ reversed ∧
        reversed.filter isStep = s :: rest.filter isStep := by
  induction reversed with
  | nil => exact .inl ⟨rfl, rfl⟩
  | cons s reversed ih =>
    -- a step ends the cutting, any other segment goes away
    cases hs : isStep s with
    | true =>
      refine .inr ⟨s, reversed, ?_, hs, List.suffix_rfl, List.filter_cons_of_pos hs⟩
      rw [trimmed, List.dropWhile_cons_of_neg (by simp [hs])]
    | false =>
      have htrim : trimmed (s :: reversed) = trimmed reversed := by
        rw [trimmed, List.dropWhile_cons_of_pos (by simp [hs]), trimmed]
      rw [htrim, List.filter_cons_of_neg (by simp [hs])]
      obtain hnone | ⟨s', rest, htrim', hs', hsuffix, hfilter⟩ := ih
      · exact .inl hnone
      · exact .inr ⟨s', rest, htrim', hs', hsuffix.trans (List.suffix_cons s reversed), hfilter⟩

/-- A path of which nothing but the front is left starts where the whole path does. -/
private theorem head?_of_reverse_suffix {kept segments : List String} (hne : kept ≠ [])
    (h : kept <:+ segments.reverse) : kept.reverse.head? = segments.head? := by
  obtain ⟨front, hfront⟩ := h
  have hsegments : segments = kept.reverse ++ front.reverse := by
    rw [← List.reverse_append, hfront, List.reverse_reverse]
  obtain ⟨x, xs, hx⟩ := List.exists_cons_of_ne_nil (mt List.reverse_eq_nil_iff.mp hne)
  rw [hsegments, hx]
  rfl

private theorem steps_nowhere (rooted : Bool) : (⟨rooted, [""]⟩ : Path).steps = [] := by
  cases rooted <;> decide

/-- What is left of a path with one step besides the `.` at its front. -/
private theorem steps_front {s : String} (hs : isStep s = true) (h : p.steps = p.dot ++ [s]) :
    steps ⟨p.rooted, if !p.rooted && p.steps.head? == some "." then ["."] else [""]⟩ = p.dot := by
  have hne : s ≠ "." := fun heq => absurd (heq ▸ hs) (by decide)
  obtain hdot | ⟨hdot, hrooted⟩ := dot_cases p
  · rw [h, hdot, if_neg (by simp [hne]), steps_nowhere]
  · rw [h, hdot, hrooted]
    rfl

/-- The `parent?` of a path has its steps but the last. -/
theorem steps_parent? (h : p.parent? = some q) :
    q.rooted = p.rooted ∧ q.steps = p.steps.dropLast := by
  have hreverse : p.segments.filter isStep = (p.segments.reverse.filter isStep).reverse := by
    rw [List.filter_reverse, List.reverse_reverse]
  unfold parent? at h
  split at h
  · cases h
  · obtain ⟨htrim, hfilter⟩ | ⟨s, rest, htrim, hs, hsuffix, hfilter⟩ :=
      trimmed_cases p.segments.reverse
    · -- the only step is the `.` at the front
      rw [htrim] at h
      cases h
      refine ⟨rfl, ?_⟩
      rw [steps_nowhere, steps_eq, hreverse, hfilter]
      obtain hdot | ⟨hdot, -⟩ := dot_cases p <;> rw [hdot] <;> rfl
    · rw [htrim] at h
      have hlast : p.steps = p.dot ++ (rest.filter isStep).reverse ++ [s] := by
        rw [steps_eq, hreverse, hfilter, List.reverse_cons, List.append_assoc]
      rw [hlast, List.dropLast_concat]
      obtain ⟨htrim', hfilter'⟩ | ⟨s', rest', htrim', hs', hsuffix', hfilter'⟩ :=
        trimmed_cases rest
      · -- one step is left besides the `.`
        rw [hfilter', List.reverse_nil, List.append_nil] at hlast ⊢
        simp only [htrim'] at h
        cases h
        exact ⟨rfl, steps_front hs hlast⟩
      · -- the front of the path is kept, and so is the `.` there
        simp only [htrim'] at h
        cases h
        have hkept : s' :: rest' <:+ p.segments.reverse :=
          hsuffix'.trans ((List.suffix_cons s rest).trans hsuffix)
        have hdot' : dot ⟨p.rooted, (s' :: rest').reverse⟩ = p.dot :=
          dot_congr rfl (head?_of_reverse_suffix (List.cons_ne_nil s' rest') hkept)
        refine ⟨rfl, ?_⟩
        rw [steps_eq, hdot', List.filter_reverse, hfilter', List.filter_cons_of_pos hs']

/-- Only a path without steps has no `parent?`. -/
private theorem parent?_eq_none_iff : p.parent? = none ↔ p.steps = [] := by
  unfold parent?
  split
  · next h => simpa using h
  · next h =>
    have h : p.steps ≠ [] := by simpa using h
    refine ⟨fun hnone => ?_, fun hnil => absurd hnil h⟩
    split at hnone
    · split at hnone <;> cases hnone
    · cases hnone

/-- A path has one step more than its parent. -/
theorem exists_steps_eq_concat (h : p.parent? = some q) : ∃ s, p.steps = q.steps ++ [s] := by
  have hne : p.steps ≠ [] := by
    intro hnil
    rw [parent?_eq_none_iff.mpr hnil] at h
    cases h
  exact ⟨p.steps.getLast hne, by rw [(steps_parent? h).2, List.dropLast_concat_getLast]⟩

/-- A path with a last step has a parent with the others. -/
theorem exists_parent?_of_concat {front : List String} {s : String} (h : p.steps = front ++ [s]) :
    ∃ q, p.parent? = some q ∧ q.steps = front := by
  have hne : p.steps ≠ [] := by simp [h]
  obtain ⟨q, hq⟩ := Option.ne_none_iff_exists'.mp (mt parent?_eq_none_iff.mp hne)
  exact ⟨q, hq, by rw [(steps_parent? hq).2, h, List.dropLast_concat]⟩

/-- What holds of every path without steps, and of a path if it holds of its parent, holds of every
path. -/
theorem parent?_induction {P : Path → Prop} (hroot : ∀ p, p.steps = [] → P p)
    (hstep : ∀ p q, p.parent? = some q → P q → P p) (p : Path) : P p := by
  induction hn : p.steps.length generalizing p with
  | zero => exact hroot p (List.eq_nil_of_length_eq_zero hn)
  | succ n ih =>
    have hne : p.steps ≠ [] := List.ne_nil_of_length_eq_add_one hn
    obtain ⟨q, hq, hsteps⟩ :=
      exists_parent?_of_concat (List.dropLast_concat_getLast hne).symm
    refine hstep p q hq (ih q ?_)
    rw [hsteps, List.length_dropLast, hn]
    omega

/-! ## All folders -/

/-- A path has no more steps than segments. -/
private theorem length_steps_le (p : Path) : p.steps.length ≤ p.segments.length := by
  obtain ⟨rooted, segments⟩ := p
  unfold steps
  split
  · next rest _ hsegments =>
    have hsegments : segments = "." :: rest := hsegments
    rw [hsegments, List.length_cons, List.length_cons]
    exact Nat.succ_le_succ (List.length_filter_le _ _)
  · exact List.length_filter_le _ _

/-- More fuel for `above` than there are steps makes no difference. -/
private theorem above_congr {fuel fuel' : Nat} (h : p.steps.length < fuel)
    (h' : p.steps.length < fuel') :
    above fuel p = above fuel' p := by
  induction fuel generalizing p fuel' with
  | zero => omega
  | succ fuel ih =>
    obtain ⟨fuel', rfl⟩ : ∃ k, fuel' = k + 1 := ⟨fuel' - 1, by omega⟩
    rw [above, above]
    cases hparent : p.parent? with
    | none => rfl
    | some q =>
      obtain ⟨s, hs⟩ := exists_steps_eq_concat hparent
      rw [hs, List.length_append, List.length_singleton] at h h'
      have hrest : above fuel q = above fuel' q := ih (by omega) (by omega)
      simp only [hrest]

/-- The `folders` above a path are its parent and those above the parent. -/
theorem folders_of_parent? (h : p.parent? = some q) : p.folders = q :: q.folders := by
  have hp := length_steps_le p
  have hq := length_steps_le q
  obtain ⟨s, hs⟩ := exists_steps_eq_concat h
  rw [hs, List.length_append, List.length_singleton] at hp
  -- the parent may be written with fewer segments, but it has enough of them for its steps
  have hrest : above p.segments.length q = above (q.segments.length + 1) q :=
    above_congr (by omega) (by omega)
  rw [folders, above, h, folders, ← hrest]

/-- There are no `folders` above a path without steps. -/
theorem folders_of_steps_eq_nil (h : p.steps = []) : p.folders = [] := by
  rw [folders, above, parent?_eq_none_iff.mpr h]

/-- A folder above a path starts where the path does, and has its first steps. -/
theorem exists_steps_of_mem_folders (h : q ∈ p.folders) :
    q.rooted = p.rooted ∧ ∃ inner, inner ≠ [] ∧ p.steps = q.steps ++ inner := by
  induction p using parent?_induction with
  | hroot p hp =>
    rw [folders_of_steps_eq_nil hp] at h
    cases h
  | hstep p r hr ih =>
    obtain ⟨s, hs⟩ := exists_steps_eq_concat hr
    rw [folders_of_parent? hr] at h
    obtain rfl | h := List.mem_cons.mp h
    · exact ⟨(steps_parent? hr).1, [s], by simp, hs⟩
    · obtain ⟨hrooted, inner, -, hinner⟩ := ih h
      exact ⟨hrooted.trans (steps_parent? hr).1, inner ++ [s], by simp, by rw [hs, hinner]; simp⟩

/-- Every proper front part of the steps leads to a folder above the path. -/
theorem exists_mem_folders {front inner : List String} (h : p.steps = front ++ inner)
    (hne : inner ≠ []) : ∃ q ∈ p.folders, q.steps = front := by
  induction p using parent?_induction generalizing inner with
  | hroot p hp =>
    rw [hp] at h
    simp_all
  | hstep p r hr ih =>
    obtain ⟨init, s, rfl⟩ : ∃ init s, inner = init ++ [s] :=
      ⟨_, _, (List.dropLast_concat_getLast hne).symm⟩
    have hsteps : r.steps = front ++ init := by
      rw [(steps_parent? hr).2, h, ← List.append_assoc, List.dropLast_concat]
    rw [folders_of_parent? hr]
    -- the parent is the folder, or the folder is above the parent
    by_cases hinit : init = []
    · exact ⟨r, List.mem_cons_self, by rw [hsteps, hinit, List.append_nil]⟩
    · obtain ⟨q, hq, hfront⟩ := ih hsteps hinit
      exact ⟨q, List.mem_cons_of_mem r hq, hfront⟩

/-- The folders above a path are told apart by their steps. -/
theorem eq_of_mem_folders (hq : q ∈ p.folders) (hr : r ∈ p.folders) (h : q.steps = r.steps) :
    q = r := by
  induction p using parent?_induction with
  | hroot p hp =>
    rw [folders_of_steps_eq_nil hp] at hq
    cases hq
  | hstep p a ha ih =>
    -- all but the nearest have fewer steps than that one
    have hshort {b : Path} (hb : b ∈ a.folders) : b.steps ≠ a.steps := by
      obtain ⟨-, inner, hne, hinner⟩ := exists_steps_of_mem_folders hb
      rw [hinner]
      simpa using hne
    rw [folders_of_parent? ha] at hq hr
    obtain rfl | hq := List.mem_cons.mp hq
    · obtain rfl | hr := List.mem_cons.mp hr
      · rfl
      · exact absurd h.symm (hshort hr)
    · obtain rfl | hr := List.mem_cons.mp hr
      · exact absurd h (hshort hq)
      · exact ih hq hr

/-! ## Names -/

/-- The `name?` of a path is its last step, if that is a name. -/
theorem name?_eq_some_iff (hup : name ≠ "..") (hstay : name ≠ ".") :
    p.name? = some name ↔ p.steps.getLast? = some name := by
  unfold name?
  cases hlast : p.steps.getLast? with
  | none => simp
  | some s => grind

/-- A step behind the others does not change the `.` at the front. -/
private theorem dot_concat (rooted : Bool) (kept : List String) {s : String} (hs : s ≠ ".") :
    dot ⟨rooted, kept ++ [s]⟩ = dot ⟨rooted, kept⟩ := by
  cases kept with
  | nil => simp [dot, hs]
  | cons => rfl

/-- `joinText` with a name adds the name as a step. -/
theorem steps_joinText (hname : ofText name = ⟨false, [name]⟩) (hstep : isStep name = true)
    (p : Path) :
    (p.joinText name).rooted = p.rooted ∧ (p.joinText name).steps = p.steps ++ [name] := by
  have hempty : isStep "" = false := by decide
  have hstay : name ≠ "." := fun heq => absurd (heq ▸ hstep) (by decide)
  have hfilter : [name].filter isStep = [name] := List.filter_cons_of_pos hstep
  -- whatever segments are kept, it is enough that they have the steps of the path
  have hkept {kept : List String} (hdot : dot ⟨p.rooted, kept⟩ = p.dot)
      (hsteps : kept.filter isStep = p.segments.filter isStep) :
      steps ⟨p.rooted, kept ++ [name]⟩ = p.steps ++ [name] := by
    rw [steps_eq, dot_concat _ _ hstay, List.filter_append, hfilter, hdot, hsteps, steps_eq p,
      List.append_assoc]
  obtain ⟨rooted, segments⟩ := p
  rw [joinText, hname, join, if_neg Bool.false_ne_true]
  split
  · next hnothing =>
    obtain ⟨rfl, rfl | rfl⟩ : rooted = false ∧ (segments = [""] ∨ segments = []) := by
      simpa using hnothing
    · exact ⟨rfl, @hkept [] (by decide) (by decide)⟩
    · exact ⟨rfl, @hkept [] rfl rfl⟩
  · split
    · next hslash =>
      -- a slash at the end leaves an empty segment, which goes away
      obtain ⟨front, rfl⟩ := List.getLast?_eq_some_iff.mp (beq_iff_eq.mp hslash)
      refine ⟨rfl, ?_⟩
      rw [List.dropLast_concat]
      refine hkept (dot_concat _ _ (by decide)).symm ?_
      rw [List.filter_append, List.filter_cons_of_neg (by simp [hempty]), List.filter_nil,
        List.append_nil]
    · exact ⟨rfl, hkept rfl rfl⟩

end PrimitiveDesk.Path
