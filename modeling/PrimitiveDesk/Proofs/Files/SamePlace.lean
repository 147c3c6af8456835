import PrimitiveDesk.Files.Tree

/-!
# Different ways to write a path

Two paths with the same steps (`Path.same`) may be written differently, with segments that are no
steps in between. `FileTree.follow` leads along them to the same file, except that one of them may
be too long to be followed.
-/

namespace PrimitiveDesk

/-! ## Steps -/

namespace Path

variable {p q : Path}

theorem same_iff : p.same q = true ↔ p.rooted = q.rooted ∧ p.steps = q.steps := by
  simp [same]

@[simp] theorem same_refl (p : Path) : p.same p = true := by simp [same]

theorem same_comm (p q : Path) : p.same q = q.same p := by
  simp [same, BEq.comm]

/-- Paths with the same steps are the same as the same paths. -/
theorem same_congr (h : p.same q = true) (r : Path) : r.same p = r.same q := by
  obtain ⟨hrooted, hsteps⟩ := same_iff.mp h
  simp [same, hrooted, hsteps]

/-- The steps of a path, without the `.` that may stand at its front. -/
private theorem filter_isStep_steps (p : Path) :
    p.steps.filter isStep = p.segments.filter isStep := by
  have hdot : isStep "." = false := by decide
  unfold steps
  split
  · next rest _ hsegments =>
    rw [hsegments, List.filter_cons_of_neg (by simp [hdot]),
      List.filter_cons_of_neg (by simp [hdot]), List.filter_filter]
    simp
  · rw [List.filter_filter]
    simp

/-- Paths that are the `same` have the same steps among their segments. -/
theorem filter_isStep_of_same (h : p.same q = true) :
    p.segments.filter isStep = q.segments.filter isStep := by
  rw [← filter_isStep_steps, ← filter_isStep_steps, (same_iff.mp h).2]

/-- What stands in front when a path is gone on from, whatever follows. It has the same steps. -/
theorem exists_join_eq (p : Path) :
    ∃ front : List String, front.filter isStep = p.segments.filter isStep ∧
      ∀ q : Path, q.rooted = false → p.join q = ⟨p.rooted, front ++ q.segments⟩ := by
  have hempty : isStep "" = false := by decide
  by_cases hnothing : (!p.rooted && (p.segments == [""] || p.segments.isEmpty)) = true
  · -- nothing is there to go on from
    obtain ⟨hrooted, hsegments⟩ : p.rooted = false ∧ (p.segments = [""] ∨ p.segments = []) := by
      simpa using hnothing
    refine ⟨[], ?_, fun q hq => ?_⟩
    · obtain hone | hnil := hsegments
      · rw [hone]
        rfl
      · rw [hnil]
    · rw [join, if_neg (by simp [hq]), if_pos hnothing, hrooted, ← hq, List.nil_append]
  · by_cases hslash : (p.segments.getLast? == some "") = true
    · -- a slash at the end leaves an empty segment, which goes away
      refine ⟨p.segments.dropLast, ?_, fun q hq => ?_⟩
      · obtain ⟨front, hfront⟩ := List.getLast?_eq_some_iff.mp (beq_iff_eq.mp hslash)
        rw [hfront, List.dropLast_concat, List.filter_append,
          List.filter_cons_of_neg (by simp [hempty]), List.filter_nil, List.append_nil]
      · rw [join, if_neg (by simp [hq]), if_neg hnothing, if_pos hslash]
    · refine ⟨p.segments, rfl, fun q hq => ?_⟩
      rw [join, if_neg (by simp [hq]), if_neg hnothing, if_neg hslash]

end Path

/-! ## Where a path leads -/

namespace FileTree

variable (tree : FileTree)

/-- Nothing is reached unless a folder is there to go on from. -/
private theorem follow_cons_congr {reversed : List String} {s s' : String}
    {rest rest' : List String}
    (h : ∀ entries, tree.find reversed.reverse = .ok (folder entries) →
      tree.follow reversed (s :: rest) = tree.follow reversed (s' :: rest')) :
    tree.follow reversed (s :: rest) = tree.follow reversed (s' :: rest') := by
  cases hfind : tree.find reversed.reverse with
  | error e => rw [follow, follow, hfind]
  | ok t =>
    cases t with
    | file content executable => rw [follow, follow, hfind]
    | folder entries => exact h entries hfind

/-- Segments that are no steps do not change where a path leads, if there is something behind them.
The induction is on the segments; a segment that is no step asks for a folder, and so does the one
that comes next. -/
theorem follow_append_singleton (reversed segments : List String) (last : String) :
    tree.follow reversed (segments ++ [last]) =
      tree.follow reversed (segments.filter Path.isStep ++ [last]) := by
  induction segments generalizing reversed with
  | nil => rfl
  | cons s segments ih =>
    obtain ⟨s', rest', hrest⟩ :
        ∃ s' rest', segments.filter Path.isStep ++ [last] = s' :: rest' :=
      List.exists_cons_of_ne_nil (by simp)
    -- a step is taken on both sides; any other segment is taken on one side only
    cases hs : Path.isStep s with
    | true =>
      rw [List.filter_cons_of_pos hs, List.cons_append, List.cons_append]
      refine tree.follow_cons_congr fun entries hfind => ?_
      rw [follow, follow, hfind]
      simp only [ih]
    | false =>
      rw [List.filter_cons_of_neg (by simp [hs]), List.cons_append, hrest]
      refine tree.follow_cons_congr fun entries hfind => ?_
      have hstay : (s == "" || s == ".") = true := by
        simpa [Path.isStep, Decidable.or_iff_not_imp_left] using hs
      rw [← hrest, ← ih, follow, hfind]
      simp only [hstay, if_true]

/-- Going on from `/` keeps the segments of a path. -/
theorem segments_join_root (p : Path) : ((Path.ofText "/").join p).segments = p.segments := by
  have hroot : Path.ofText "/" = ⟨true, [""]⟩ := by decide
  unfold Path.join
  rw [hroot]
  split
  · rfl
  · simp

end FileTree

end PrimitiveDesk
