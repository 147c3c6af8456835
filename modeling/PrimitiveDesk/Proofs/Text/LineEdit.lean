import Mathlib.Data.List.TakeWhile
import PrimitiveDesk.Proofs.Text.CharBoundary
import PrimitiveDesk.Proofs.Text.LineSplit
import PrimitiveDesk.Text.LineIndex

/-!
# Replacing a line

An editor replaces the bytes inside a span by another text (`replaceSpan?`). If the span is that of
a line, the other lines stay as they are, and the new lines stand in place of the old one
(`exists_replaceSpan?_lineSpan?`). A line ending with several carriage returns keeps them all,
behind the last of the new lines.
-/

namespace PrimitiveDesk.Text

/-- The text with a new text in place of the bytes inside a span, if both ends are character
boundaries. -/
def replaceSpan? (text : List Char) (span : Span) (new : List Char) : Option (List Char) :=
  (takeBytes? text span.start).bind fun front =>
    (dropBytes? text span.stop).map fun back => front ++ new ++ back

/-! ## Lines -/

/-- `rawLines` finds at least one line, also in an empty text. -/
theorem rawLines_ne_nil (text : List Char) : rawLines text ≠ [] := by
  cases text with
  | nil => simp [rawLines]
  | cons c cs =>
    rw [rawLines]
    split
    · simp
    · split <;> simp

/-- `rawLines` of two texts with a line feed between them. -/
private theorem rawLines_append_newline_append (xs ys : List Char) :
    rawLines (xs ++ '\n' :: ys) = rawLines xs ++ rawLines ys := by
  induction xs with
  | nil => exact rawLines_append_newline List.not_mem_nil ys
  | cons c cs ih =>
    rw [List.cons_append, rawLines, rawLines]
    by_cases hc : c = '\n'
    · rw [if_pos hc, if_pos hc, ih, List.cons_append]
    · -- the character goes to the first line, which is one of the first text
      obtain ⟨l, ls, hl⟩ := List.exists_cons_of_ne_nil (rawLines_ne_nil cs)
      rw [if_neg hc, if_neg hc, ih, hl]
      rfl

/-- `lines` of two texts with a line feed between them. -/
theorem lines_append_newline_append (xs ys : List Char) :
    lines (xs ++ '\n' :: ys) = lines xs ++ lines ys := by
  rw [lines, rawLines_append_newline_append, List.map_append, lines, lines]

/-- Around a line of `rawLines` stand the parts of the text in front of it and behind it. With
another text in its place, the lines of that text stand among the other lines. The induction is on
the number of the line, which is counted down as the lines in front are cut off. -/
theorem exists_rawLines_edit {text line : List Char} {i : Nat}
    (h : (rawLines text)[i]? = some line) :
    ∃ front back, text = front ++ line ++ back ∧ '\n' ∉ line ∧
      byteLength front = LineIndex.lineStart ⟨rawLines text⟩ i ∧
      ∀ new, rawLines (front ++ new ++ back) =
        (rawLines text).take i ++ rawLines new ++ (rawLines text).drop (i + 1) := by
  induction i generalizing text with
  | zero =>
    -- the first line ends at the first line feed, or with the text
    by_cases hmem : '\n' ∈ text
    · obtain ⟨first, rest, rfl, hfirst⟩ := List.eq_append_cons_of_mem hmem
      have hlines := rawLines_append_newline hfirst rest
      obtain rfl : first = line := by simpa [hlines] using h
      refine ⟨[], '\n' :: rest, rfl, hfirst, rfl, fun new => ?_⟩
      rw [List.nil_append, rawLines_append_newline_append, hlines]
      rfl
    · have hlines := rawLines_of_not_mem hmem
      obtain rfl : text = line := by simpa [hlines] using h
      refine ⟨[], [], by simp, hmem, rfl, fun new => ?_⟩
      simp [hlines]
  | succ i ih =>
    -- a further line is one of the text behind the first line feed
    by_cases hmem : '\n' ∈ text
    · obtain ⟨first, rest, rfl, hfirst⟩ := List.eq_append_cons_of_mem hmem
      have hlines := rawLines_append_newline hfirst rest
      have hrest : (rawLines rest)[i]? = some line := by simpa [hlines] using h
      obtain ⟨front, back, rfl, hline, hstart, hedit⟩ := ih hrest
      refine ⟨first ++ '\n' :: front, back, by simp, hline, ?_, fun new => ?_⟩
      · have hfeed : byteLength ['\n'] = 1 := by decide
        rw [← List.singleton_append, byteLength_append, byteLength_append, hstart, hlines, hfeed]
        simp only [LineIndex.lineStart, List.take_succ_cons, List.foldr_cons]
        omega
      · have hnew := rawLines_append_newline hfirst (front ++ new ++ back)
        rw [hlines, List.take_succ_cons, List.drop_succ_cons, List.cons_append, List.cons_append,
          ← hedit new, ← hnew]
        simp
    · rw [rawLines_of_not_mem hmem] at h
      simp at h

/-! ## Carriage returns -/

/-- No line of `lines` has a line feed. -/
theorem not_mem_of_getElem?_lines {text line : List Char} {i : Nat}
    (h : (lines text)[i]? = some line) : '\n' ∉ line := by
  rw [lines, List.getElem?_map] at h
  obtain ⟨raw, hraw, rfl⟩ := Option.map_eq_some_iff.mp h
  obtain ⟨-, -, -, hbreak, -⟩ := exists_rawLines_edit hraw
  exact fun hmem => hbreak (mem_of_mem_dropReturn hmem)

/-- What `dropReturns` leaves out are carriage returns. -/
theorem exists_dropReturns (line : List Char) :
    ∃ returns, dropReturns line ++ returns = line ∧ ∀ c ∈ returns, c = '\r' := by
  refine ⟨(line.reverse.takeWhile (· == '\r')).reverse, ?_, ?_⟩
  · rw [dropReturns, ← List.reverse_append, List.takeWhile_append_dropWhile, List.reverse_reverse]
  · intro c hc
    simpa using List.mem_takeWhile_imp (List.mem_reverse.mp hc)

/-! ## Spans -/

/-- `takeBytes?` finds a part in front of a text by its bytes. -/
theorem takeBytes?_append (xs ys : List Char) :
    takeBytes? (xs ++ ys) (byteLength xs) = some xs := by
  induction xs with
  | nil => cases ys <;> rfl
  | cons c xs ih =>
    obtain ⟨k, hk, hlen⟩ := exists_byteLength_cons c xs
    rw [hk, List.cons_append, takeBytes?, if_pos (by omega)]
    rw [show k + 1 - c.utf8Size = byteLength xs by omega, ih]
    rfl

/-- `slice?` finds a part of a text by its span. -/
theorem slice?_append (front part back : List Char) :
    slice? (front ++ part ++ back) ⟨byteLength front, byteLength front + byteLength part⟩ =
      some part := by
  rw [slice?, if_pos (Nat.le_add_right _ _), List.append_assoc, dropBytes?_append, Option.bind_some,
    Nat.add_sub_cancel_left, takeBytes?_append]

/-- `replaceSpan?` of the span of a part replaces the part. -/
private theorem replaceSpan?_append (front part back new : List Char) :
    replaceSpan? (front ++ part ++ back)
        ⟨byteLength front, byteLength front + byteLength part⟩ new =
      some (front ++ new ++ back) := by
  have htake := takeBytes?_append front (part ++ back)
  have hdrop := dropBytes?_append (front ++ part) back
  rw [byteLength_append] at hdrop
  rw [List.append_assoc] at hdrop ⊢
  rw [replaceSpan?, htake, hdrop]
  rfl

/-- A line with a span can be replaced. Then the lines of the new text stand in its place, the last
of them in front of the carriage returns of the old line. -/
theorem exists_replaceSpan?_lineSpan? {text : String} {i : Nat} {span : Span}
    (h : (LineIndex.ofText text).lineSpan? i = some span) :
    ∃ returns, (∀ c ∈ returns, c = '\r') ∧ ∀ new, ∃ edited,
      replaceSpan? text.toList span new = some edited ∧
      lines edited =
        (lines text.toList).take i ++ lines (new ++ returns) ++
          (lines text.toList).drop (i + 1) := by
  obtain ⟨line, hline, rfl⟩ := Option.map_eq_some_iff.mp h
  obtain ⟨front, back, htext, -, hstart, hedit⟩ := exists_rawLines_edit hline
  obtain ⟨returns, hreturns, hall⟩ := exists_dropReturns line
  refine ⟨returns, hall, fun new => ⟨front ++ new ++ (returns ++ back), ?_, ?_⟩⟩
  · -- the carriage returns of the line stay where they are
    have hcut : text.toList = front ++ dropReturns line ++ (returns ++ back) := by
      rw [List.append_assoc, ← List.append_assoc (dropReturns line), hreturns, htext,
        List.append_assoc]
    have hspan := replaceSpan?_append front (dropReturns line) (returns ++ back) new
    rw [← hcut, hstart] at hspan
    exact hspan
  · have hnew := hedit (new ++ returns)
    rw [← List.append_assoc, List.append_assoc front, lines, hnew]
    simp only [lines, List.map_append, List.map_take, List.map_drop]

end PrimitiveDesk.Text
