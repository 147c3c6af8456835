import PrimitiveDesk.Text.Lines

/-!
# Cutting a joined text

Lines that are joined by line feeds are read back by `rawLines` (`rawLines_intercalate`), and by
`lines` without their carriage returns (`lines_intercalate`). The carriage return that `dropReturn`
drops never reaches past the last character that is none (`dropReturn_append_cons`).
-/

namespace PrimitiveDesk.Text

/-! ## Line feeds -/

/-- `rawLines` finds one line in a text without line feeds. -/
theorem rawLines_of_not_mem {line : List Char} (h : '\n' ∉ line) : rawLines line = [line] := by
  induction line with
  | nil => rfl
  | cons c cs ih =>
    rw [List.mem_cons, not_or] at h
    rw [rawLines, if_neg (Ne.symm h.1), ih h.2]

/-- The first line of `rawLines` ends at the first line feed. -/
theorem rawLines_append_newline {line : List Char} (h : '\n' ∉ line) (rest : List Char) :
    rawLines (line ++ '\n' :: rest) = line :: rawLines rest := by
  induction line with
  | nil => rw [List.nil_append, rawLines, if_pos rfl]
  | cons c cs ih =>
    rw [List.mem_cons, not_or] at h
    rw [List.cons_append, rawLines, if_neg (Ne.symm h.1), ih h.2]

/-- Lines joined by line feeds are cut into the same lines. -/
theorem rawLines_intercalate {ls : List (List Char)} (hne : ls ≠ [])
    (h : ∀ l ∈ ls, '\n' ∉ l) : rawLines (List.intercalate ['\n'] ls) = ls := by
  induction ls with
  | nil => exact absurd rfl hne
  | cons l rest ih =>
    have hl : '\n' ∉ l := h l List.mem_cons_self
    cases rest with
    | nil =>
      have hjoin : List.intercalate ['\n'] [l] = l := by simp [List.intercalate]
      rw [hjoin, rawLines_of_not_mem hl]
    | cons m rest =>
      have hjoin : List.intercalate ['\n'] (l :: m :: rest) =
          l ++ '\n' :: List.intercalate ['\n'] (m :: rest) := by
        simp [List.intercalate]
      have hrest := ih (List.cons_ne_nil m rest) fun l' hl' => h l' (List.mem_cons_of_mem l hl')
      rw [hjoin, rawLines_append_newline hl, hrest]

/-- The lines of a joined text are the joined lines without their carriage returns. -/
theorem lines_intercalate {ls : List (List Char)} (hne : ls ≠ [])
    (h : ∀ l ∈ ls, '\n' ∉ l) : lines (List.intercalate ['\n'] ls) = ls.map dropReturn := by
  rw [lines, rawLines_intercalate hne h]

/-! ## Carriage returns -/

/-- What `dropReturn` leaves out is at most one carriage return at the end. -/
theorem dropReturn_append (line : List Char) :
    dropReturn line = line ∨ line = dropReturn line ++ ['\r'] := by
  unfold dropReturn
  split
  · next rest h =>
    right
    rw [← List.reverse_reverse line, h, List.reverse_cons]
  · exact Or.inl rfl

/-- A character that is no carriage return, and all that stands before it, is kept. -/
theorem dropReturn_append_cons {c : Char} (hc : c ≠ '\r') (xs ys : List Char) :
    dropReturn (xs ++ c :: ys) = xs ++ c :: dropReturn ys := by
  -- only the last character may be dropped, and the list is cut in front of it
  rcases List.eq_nil_or_concat ys with rfl | ⟨zs, d, rfl⟩
  · have h : ∀ rest, (xs ++ [c]).reverse ≠ '\r' :: rest := by
      intro rest hrest
      rw [List.reverse_append, List.reverse_singleton, List.singleton_append] at hrest
      exact hc (List.head_eq_of_cons_eq hrest)
    unfold dropReturn
    split
    · next rest hrest => exact absurd hrest (h rest)
    · simp
  · by_cases hd : d = '\r'
    · subst hd
      simp [dropReturn]
    · simp [dropReturn, hd]

/-- No character is added by `dropReturn`. -/
theorem mem_of_mem_dropReturn {c : Char} {line : List Char} (h : c ∈ dropReturn line) :
    c ∈ line := by
  rcases dropReturn_append line with heq | heq
  · rwa [heq] at h
  · rw [heq]
    exact List.mem_append_left _ h

end PrimitiveDesk.Text
