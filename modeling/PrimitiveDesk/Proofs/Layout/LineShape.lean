import Mathlib.Data.List.TakeWhile
import PrimitiveDesk.Layout.Context

/-!
# The parts of a written line

A line that is put together from blanks, a dash and a body is cut by `LineShape.of` into the same
parts again (`LineShape.of_lead_append`, `LineShape.of_lead_append_dash`). From this follows what
the library tells about such a line: its indentation and its keys. Whether it is a document marker
is looked for right behind the leading blanks (`isBoundary_iff_of_lead_append`), and the character
there tells whether the line counts (`isRelevant_lead_append`).
-/

namespace PrimitiveDesk.Layout

open Text

/-! ## Trimming -/

/-- `trimStart` cuts off leading blanks in front of a character that is not blank. -/
theorem trimStart_append_cons {lead : List Char} (hlead : ∀ c ∈ lead, isBlank c) {c : Char}
    (hc : isBlank c = false) (body : List Char) : trimStart (lead ++ c :: body) = c :: body := by
  rw [trimStart, List.dropWhile_append_of_pos hlead, List.dropWhile_cons_of_neg (by simp [hc])]

/-- Behind the leading blanks stands no blank. -/
theorem not_blank_of_head?_trimStart {c : Char} {cs : List Char}
    (h : (trimStart cs).head? = some c) : isBlank c = false := by
  rw [trimStart] at h
  simpa [h] using List.head?_dropWhile_not isBlank cs

/-- `trimStart` leaves nothing of a text of blanks. -/
theorem trimStart_of_blank {cs : List Char} (h : ∀ c ∈ cs, isBlank c) : trimStart cs = [] := by
  rw [trimStart, List.dropWhile_eq_nil_iff]
  exact h

/-- Only the end of a text is trimmed by `trimEnd`. -/
theorem trimEnd_isPrefix (cs : List Char) : trimEnd cs <+: cs := by
  have hsuffix : cs.reverse.dropWhile isBlank <:+ cs.reverse := List.dropWhile_suffix isBlank
  rw [trimEnd, ← List.reverse_suffix, List.reverse_reverse]
  exact hsuffix

/-- `trimEnd` keeps a text whose last character is not blank. -/
theorem trimEnd_eq_self {cs : List Char} (h : ∀ c ∈ cs.getLast?, isBlank c = false) :
    trimEnd cs = cs := by
  rcases List.eq_nil_or_concat cs with rfl | ⟨init, c, rfl⟩
  · rfl
  · have hc : isBlank c = false := h c (by simp)
    rw [trimEnd, List.concat_eq_append, List.reverse_append, List.reverse_singleton,
      List.singleton_append, List.dropWhile_cons_of_neg (by simp [hc])]
    simp

/-- What is left of a prefix is found again in front of a longer text, if it does not end in a
blank. -/
theorem prefix_trimEnd_iff {token cs : List Char} (h : ∀ c ∈ token, isBlank c = false) :
    token <+: trimEnd cs ↔ token <+: cs := by
  constructor
  · intro hp
    exact hp.trans (trimEnd_isPrefix cs)
  · rintro ⟨rest, rfl⟩
    rw [trimEnd, List.reverse_append, List.dropWhile_append]
    -- blanks behind the token are trimmed; the token itself ends in no blank
    split
    · have hself : token.reverse.dropWhile isBlank = token.reverse := by
        cases hr : token.reverse with
        | nil => rfl
        | cons c cs =>
          have hc : c ∈ token := by rw [← List.mem_reverse, hr]; exact List.mem_cons_self
          rw [List.dropWhile_cons_of_neg (by simp [h c hc])]
      exact ⟨[], by rw [hself, List.reverse_reverse, List.append_nil]⟩
    · rw [List.reverse_append, List.reverse_reverse]
      exact List.prefix_append token _

/-! ## The cut -/

namespace LineShape

/-- `ofBody` cuts a body at its first colon. -/
theorem ofBody_append_colon (lead : List Char) (dash? : Option (List Char)) {key : List Char}
    (hkey : ':' ∉ key) (tail : List Char) :
    ofBody lead dash? (key ++ ':' :: tail) = ⟨lead, dash?, key, ':' :: tail⟩ := by
  have hne : ∀ c ∈ key, (c != ':') = true := by
    intro c hc
    rw [bne_iff_ne]
    rintro rfl
    exact hkey hc
  rw [ofBody, List.takeWhile_append_of_pos hne, List.dropWhile_append_of_pos hne]
  simp

/-- The shape of a line whose first character behind the blanks is no dash. -/
theorem of_lead_append {lead : List Char} (hlead : ∀ c ∈ lead, isBlank c) {c : Char}
    (hc : isBlank c = false) (hdash : c ≠ '-') (body : List Char) :
    of (lead ++ c :: body) = ofBody lead none (c :: body) := by
  have htake : (lead ++ c :: body).takeWhile isBlank = lead := by
    rw [List.takeWhile_append_of_pos hlead, List.takeWhile_cons_of_neg (by simp [hc]),
      List.append_nil]
  have hdrop : (lead ++ c :: body).dropWhile isBlank = c :: body :=
    trimStart_append_cons hlead hc body
  unfold of
  rw [htake, hdrop]
  split
  · next body' h =>
    rw [List.cons.injEq] at h
    exact absurd h.1 hdash
  · rfl

/-- The shape of a line that opens a sequence entry. -/
theorem of_lead_append_dash {lead : List Char} (hlead : ∀ c ∈ lead, isBlank c) (body : List Char) :
    of (lead ++ '-' :: body) =
      ofBody lead (some (body.takeWhile isBlank)) (body.dropWhile isBlank) := by
  have htake : (lead ++ '-' :: body).takeWhile isBlank = lead := by
    rw [List.takeWhile_append_of_pos hlead, List.takeWhile_cons_of_neg (by decide),
      List.append_nil]
  have hdrop : (lead ++ '-' :: body).dropWhile isBlank = '-' :: body :=
    trimStart_append_cons hlead (by decide) body
  unfold of
  simp only [htake, hdrop]

end LineShape

/-! ## Markers and lines that count -/

/-- Whether a text has a blank is a computation on its characters. -/
theorem not_blank_of_mem {cs : List Char} (h : cs.any isBlank = false) :
    ∀ c ∈ cs, isBlank c = false := by
  intro c hc
  simpa using List.any_eq_false.mp h c hc

/-- The same for at most one character. -/
theorem not_blank_of_mem_option {c? : Option Char} (h : c?.any isBlank = false) :
    ∀ c ∈ c?, isBlank c = false := by
  rintro c rfl
  exact h

/-- `isBoundary` looks for a marker right behind the leading blanks of a line. -/
theorem isBoundary_iff_of_lead_append {lead : List Char} (hlead : ∀ c ∈ lead, isBlank c) {c : Char}
    (hc : isBlank c = false) (body : List Char) :
    isBoundary (lead ++ c :: body) = true ↔
      documentStart.toList <+: c :: body ∨ documentEnd.toList <+: c :: body := by
  have hstart : ∀ c ∈ documentStart.toList, isBlank c = false := not_blank_of_mem (by decide)
  have hend : ∀ c ∈ documentEnd.toList, isBlank c = false := not_blank_of_mem (by decide)
  rw [isBoundary, startsWithAny, List.find?_isSome, trim, trimStart_append_cons hlead hc]
  simp only [List.mem_cons, List.not_mem_nil, or_false, List.isPrefixOf_iff_prefix,
    exists_eq_or_imp, exists_eq_left, prefix_trimEnd_iff hstart, prefix_trimEnd_iff hend]

/-- `isRelevant` holds of a line unless a comment stands behind its leading blanks. -/
theorem isRelevant_lead_append {lead : List Char} (hlead : ∀ c ∈ lead, isBlank c) {c : Char}
    (hc : isBlank c = false) (body : List Char) :
    isRelevant (lead ++ c :: body) = (c != '#') := by
  rw [isRelevant, trimStart_append_cons hlead hc]

theorem isRelevant_of_blank {line : List Char} (h : ∀ c ∈ line, isBlank c) :
    isRelevant line = false := by
  rw [isRelevant, trimStart_of_blank h]

theorem isBoundary_of_blank {line : List Char} (h : ∀ c ∈ line, isBlank c) :
    isBoundary line = false := by
  rw [isBoundary, startsWithAny, trim, trimStart_of_blank h]
  decide

end PrimitiveDesk.Layout
