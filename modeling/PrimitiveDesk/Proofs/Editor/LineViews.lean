import PrimitiveDesk.Editor.Completion
import PrimitiveDesk.Proofs.Text.LinePositions

/-!
# Two views of the lines

A completion asks two parts of the library for the line of its position: the context is read off the
lines without one carriage return (`Text.lines`), the text in front of the cursor is cut out by the
index of the lines, whose spans (`LineIndex.lineSpan?`) leave out all carriage returns at the end.
Both count the same lines, and what they leave out of a line belongs to its ending, so every line
with a context has a span, and the text in front of the cursor can be cut out.

A line is what stands inside its span up to carriage returns (`exists_inner`), every character is
inside the span of a line or part of a line ending (`mem_line_or_break`), and the text from the
start of a line to a position on it is a part of the text (`exists_typed`).
-/

namespace PrimitiveDesk

namespace Text

/-! ## Line endings -/

/-- A line break starts with the text: a line feed, or carriage returns up to a line feed or the end
of the text. -/
def StartsWithBreak : List Char → Prop
  | [] => False
  | c :: cs =>
    c = '\n' ∨ c = '\r' ∧ ∃ returns rest, cs = returns ++ rest ∧ (∀ r ∈ returns, r = '\r') ∧
      (rest = [] ∨ rest.head? = some '\n')

private theorem dropReturns_dropReturn (line : List Char) :
    dropReturns (dropReturn line) = dropReturns line := by
  unfold dropReturn
  split
  · next rest h => simp [dropReturns, h]
  · rfl

private theorem getLast?_dropReturns (line : List Char) :
    (dropReturns line).getLast? ≠ some '\r' := by
  rw [dropReturns, List.getLast?_reverse]
  intro h
  simpa [h] using List.head?_dropWhile_not (· == '\r') line.reverse

/-- The first line of a text ends in front of a line feed or with the text. -/
private theorem exists_rest_of_head?_rawLines {cs line : List Char}
    (h : (rawLines cs).head? = some line) :
    ∃ rest, cs = line ++ rest ∧ (rest = [] ∨ rest.head? = some '\n') := by
  -- the text is cut at its first line feed, if there is one
  by_cases hmem : '\n' ∈ cs
  · obtain ⟨first, rest, rfl, hfirst⟩ := List.eq_append_cons_of_mem hmem
    rw [rawLines_append_newline hfirst, List.head?_cons, Option.some_inj] at h
    exact ⟨'\n' :: rest, by rw [h], .inr rfl⟩
  · rw [rawLines_of_not_mem hmem, List.head?_cons, Option.some_inj] at h
    exact ⟨[], by rw [h, List.append_nil], .inl rfl⟩

/-- Every line feed opens one more line of `rawLines`. -/
theorem length_rawLines (cs : List Char) : (rawLines cs).length = cs.count '\n' + 1 := by
  induction cs with
  | nil => rfl
  | cons c cs ih =>
    rw [rawLines]
    by_cases hc : c = '\n'
    · rw [if_pos hc, List.length_cons, ih, hc, List.count_cons_self]
    · -- the character is put in front of the first line
      obtain ⟨l, ls, hl⟩ := List.exists_cons_of_ne_nil (rawLines_ne_nil cs)
      rw [if_neg hc, List.count_cons_of_ne hc, ← ih, hl]
      rfl

/-- Every byte of a text belongs to a character. -/
private theorem exists_char_of_lt {cs : List Char} {o : Nat} (h : o < byteLength cs) :
    ∃ front c back, cs = front ++ c :: back ∧ byteLength front ≤ o ∧
      o < byteLength front + c.utf8Size := by
  induction cs generalizing o with
  | nil => simp [byteLength] at h
  | cons d cs ih =>
    rw [byteLength] at h
    -- the byte belongs to the first character, or its number among the rest is smaller
    by_cases hlt : o < d.utf8Size
    · exact ⟨[], d, cs, rfl, by simp [byteLength], by simpa [byteLength] using hlt⟩
    · obtain ⟨front, c, back, rfl, hle, hlt'⟩ := ih (o := o - d.utf8Size) (by omega)
      refine ⟨d :: front, c, back, rfl, ?_, ?_⟩ <;> rw [byteLength] <;> omega

end Text

namespace LineIndex

open Text

/-- Every character is inside the span of a line or part of a line ending. -/
theorem mem_line_or_break {text : String} {xs ys : List Char} {c : Char}
    (h : text.toList = xs ++ c :: ys) :
    (∃ i span, (ofText text).lineSpan? i = some span ∧ span.start ≤ byteLength xs ∧
        byteLength xs + c.utf8Size ≤ span.stop) ∨
      StartsWithBreak (c :: ys) := by
  by_cases hc : c = '\n'
  · exact .inr (.inl hc)
  · obtain ⟨i, front, back, hcuts, hhead⟩ := exists_cuts_append xs (c :: ys)
    rw [← h] at hcuts
    obtain ⟨l, ls, hl⟩ := List.exists_cons_of_ne_nil (rawLines_ne_nil ys)
    obtain rfl : c :: l = back := by
      rw [rawLines, if_neg hc, hl] at hhead
      exact Option.some.inj hhead
    have hoffset : byteLength xs = (ofText text).lineStart i + byteLength front := hcuts.offset
    obtain ⟨returns, hreturns, hall⟩ := exists_dropReturns (front ++ c :: l)
    obtain ⟨rest, hrest, hend⟩ := exists_rest_of_head?_rawLines (by rw [hl, List.head?_cons])
    -- a character that is left out is a carriage return, and so is all behind it on the line
    have hbreak : (∀ r ∈ c :: l, r ∈ returns) → StartsWithBreak (c :: ys) := fun hmem =>
      .inr ⟨hall c (hmem c List.mem_cons_self), l, rest, hrest,
        fun r hr => hall r (hmem r (List.mem_cons_of_mem c hr)), hend⟩
    rcases List.append_eq_append_iff.mp hreturns with ⟨more, -, hmore⟩ | ⟨more, hkept, hmore⟩
    · -- the span ends in front of the character
      exact .inr (hbreak fun r hr => by rw [hmore]; exact List.mem_append_right more hr)
    · cases more with
      | nil => exact .inr (hbreak fun r hr => by rwa [hmore] at hr)
      | cons d more =>
        obtain ⟨rfl, -⟩ := List.cons.inj hmore
        refine .inl ⟨i, _, lineSpan?_of_line hcuts.line, ?_, ?_⟩
        · simp only
          omega
        · simp only [hkept, byteLength_append, byteLength]
          omega

/-- Where no span reaches, a line ending stands. -/
theorem exists_break_of_outside {text : String} {o : Nat} (ho : o < text.utf8ByteSize)
    (houtside : ∀ i span, (ofText text).lineSpan? i = some span → o < span.start ∨ span.stop ≤ o) :
    ∃ front back, text.toList = front ++ back ∧ byteLength front = o ∧ StartsWithBreak back := by
  rw [← byteLength_toList] at ho
  obtain ⟨front, c, back, htext, hle, hlt⟩ := exists_char_of_lt ho
  rcases mem_line_or_break htext with ⟨i, span, hspan, hstart, hstop⟩ | hbreak
  · have := houtside i span hspan
    omega
  · -- a character of a line ending has one byte, so it starts at the offset
    have hone : c.utf8Size = 1 := by
      rcases hbreak with rfl | ⟨rfl, -⟩ <;> decide
    exact ⟨front, c :: back, htext, by omega, hbreak⟩

section Spans

variable {ix : LineIndex} {i j : Nat} {s t : Span}

private theorem isSome_lineSpan?_iff : (ix.lineSpan? i).isSome = true ↔ i < ix.lineCount := by
  simp [lineSpan?, lineCount]

private theorem start_le_stop (hs : ix.lineSpan? i = some s) : s.start ≤ s.stop := by
  obtain ⟨line, -, rfl⟩ := Option.map_eq_some_iff.mp hs
  exact Nat.le_add_right _ _

/-- Spans of lines follow one another, with at least a line feed in between. -/
private theorem stop_lt_start (hij : i < j) (hs : ix.lineSpan? i = some s)
    (ht : ix.lineSpan? j = some t) : s.stop < t.start := by
  obtain ⟨line, hline, rfl⟩ := Option.map_eq_some_iff.mp hs
  obtain ⟨line', hline', rfl⟩ := Option.map_eq_some_iff.mp ht
  obtain ⟨returns, hreturns⟩ := dropReturns_isPrefix line
  -- the span is at most as long as the line, and the line feed comes behind the line
  have hlength := congrArg byteLength hreturns
  rw [byteLength_append] at hlength
  have hlt := lt_lineStart_of_lt hline hij
  simp only
  omega

end Spans

/-- A line of `Text.lines` is what stands inside its `lineSpan?`, up to carriage returns. -/
theorem exists_inner {text : String} {i : Nat} {line : List Char}
    (h : (Text.lines text.toList)[i]? = some line) :
    ∃ span inner returns, (ofText text).lineSpan? i = some span ∧
      slice? text.toList span = some inner ∧ line = inner ++ returns ∧
      (∀ c ∈ returns, c = '\r') ∧ inner.getLast? ≠ some '\r' := by
  rw [Text.lines, List.getElem?_map] at h
  obtain ⟨raw, hraw, rfl⟩ := Option.map_eq_some_iff.mp h
  obtain ⟨returns, hreturns, hall⟩ := exists_dropReturns (dropReturn raw)
  rw [dropReturns_dropReturn] at hreturns
  exact ⟨_, dropReturns raw, returns, lineSpan?_of_line hraw, slice?_lineSpan (p := ⟨i, 0⟩) hraw,
    hreturns.symm, hall, getLast?_dropReturns raw⟩

/-- The text from the start of a line to a position on it can be cut out. -/
theorem exists_typed {text : String} {p : Position} {span : Span}
    (h : (ofText text).lineSpan? p.line = some span) :
    ∃ typed, slice? text.toList ⟨span.start, (ofText text).offset p⟩ = some typed ∧
      IsCharBoundary text span.start ∧ IsCharBoundary text ((ofText text).offset p) ∧
      span.start ≤ (ofText text).offset p := by
  obtain ⟨line, hline, rfl⟩ := Option.map_eq_some_iff.mp h
  obtain ⟨front, back, -, hcuts⟩ := exists_cuts_offset hline
  -- the start of a line is a place on it, with nothing in front
  have hstart : (ofText text).Cuts ((ofText text).lineStart p.line) p.line [] line := ⟨hline, rfl⟩
  have hoffset := hcuts.offset
  exact ⟨front, hcuts.slice?_eq, hstart.isCharBoundary, hcuts.isCharBoundary, by simp only; omega⟩

end LineIndex

open Layout Text

/-- A position for which `resolve` gives a context is on a line. -/
private theorem exists_line_of_resolve {text : String} {i : Nat} {context : Context}
    (h : resolve text i = some context) : ∃ line, (lines text.toList)[i]? = some line := by
  rw [resolve, resolveLines] at h
  split at h
  · exact absurd h (by simp)
  · next line hline => exact ⟨line, hline⟩

/-- The lines without a carriage return and the spans of the index are the same lines: one more than
there are line feeds, and each span holds the text of its line up to carriage returns. Spans follow
one another, and between them stand line endings only. So where there is a context, a completion
finds a span, and the text from its start to the cursor lies between two character boundaries of the
text. -/
theorem lines_of_two_views (text : String) :
    let ix := LineIndex.ofText text
    ix.lineCount = (lines text.toList).length ∧ ix.lineCount = text.toList.count '\n' + 1 ∧
      (∀ i, (ix.lineSpan? i).isSome = true ↔ i < ix.lineCount) ∧
      (∀ i line, (lines text.toList)[i]? = some line →
        '\n' ∉ line ∧ ∃ span inner returns, ix.lineSpan? i = some span ∧
          slice? text.toList span = some inner ∧ line = inner ++ returns ∧
          (∀ c ∈ returns, c = '\r') ∧ inner.getLast? ≠ some '\r') ∧
      (∀ i s, ix.lineSpan? i = some s → s.start ≤ s.stop ∧
        ∀ j t, i < j → ix.lineSpan? j = some t → s.stop < t.start) ∧
      (∀ o < text.utf8ByteSize,
        (∀ i span, ix.lineSpan? i = some span → o < span.start ∨ span.stop ≤ o) →
        ∃ front back, text.toList = front ++ back ∧ byteLength front = o ∧ StartsWithBreak back) ∧
      ∀ p context, resolve text p.line = some context →
        ∃ span typed, ix.lineSpan? p.line = some span ∧
          slice? text.toList ⟨span.start, ix.offset p⟩ = some typed ∧
          IsCharBoundary text span.start ∧ IsCharBoundary text (ix.offset p) ∧
          span.start ≤ ix.offset p ∧ ix.offset p ≤ text.utf8ByteSize ∧
          ∀ shape kind unit, complete text p shape kind unit =
            Completion.suggest context shape kind unit (isOpened (lines text.toList) p.line)
              (isClosed (lines text.toList) p.line) (trimStart typed) span := by
  intro ix
  refine ⟨?_, length_rawLines text.toList, ?_, ?_, ?_, ?_, ?_⟩
  · rw [lines, List.length_map]
    rfl
  · intro i
    exact LineIndex.isSome_lineSpan?_iff
  · intro i line hline
    exact ⟨not_mem_of_getElem?_lines hline, LineIndex.exists_inner hline⟩
  · intro i s hs
    exact ⟨LineIndex.start_le_stop hs, fun j t hij ht => LineIndex.stop_lt_start hij hs ht⟩
  · intro o ho houtside
    exact LineIndex.exists_break_of_outside ho houtside
  · intro p context hresolve
    -- a line with a context has a span, out of which the text in front of the cursor is cut
    obtain ⟨line, hline⟩ := exists_line_of_resolve hresolve
    obtain ⟨span, -, -, hspan, -⟩ := LineIndex.exists_inner hline
    obtain ⟨typed, htyped, hstart, hoffset, hle⟩ := LineIndex.exists_typed hspan
    refine ⟨span, typed, hspan, htyped, hstart, hoffset, hle, hoffset.le_utf8ByteSize, ?_⟩
    intro shape kind unit
    rw [resolve] at hresolve
    simp only [complete, hresolve, hspan, htyped, Option.getD_some]

/-- A text with several carriage returns in front of a line feed and one at its end. -/
def mixedText : String := "a: ä\r\r\n\r\nb\r"

/-- Both carriage returns of the first line are outside of its span, and one of them is still in the
line that the context is read from. -/
theorem lines_of_mixedText :
    let ix := LineIndex.ofText mixedText
    ix.lineSpan? 0 = some ⟨0, 5⟩ ∧ ix.lineSpan? 1 = some ⟨8, 8⟩ ∧
      (∃ inner returns, slice? mixedText.toList ⟨0, 5⟩ = some inner ∧
        "a: ä\r".toList = inner ++ returns ∧ (∀ c ∈ returns, c = '\r')) ∧
      (∃ front back, mixedText.toList = front ++ back ∧ byteLength front = 6 ∧
        StartsWithBreak back) ∧
      resolve mixedText 0 = some (.nested [] ["a", "b"]) ∧
      ∃ typed, slice? mixedText.toList ⟨0, ix.offset ⟨0, 9⟩⟩ = some typed := by
  intro ix
  have hfirst : ix.lineSpan? 0 = some ⟨0, 5⟩ := by decide
  have hsecond : ix.lineSpan? 1 = some ⟨8, 8⟩ := by decide
  have hresolve : resolve mixedText 0 = some (.nested [] ["a", "b"]) := by decide
  obtain ⟨-, -, -, hinner, hordered, hbreak, htyped⟩ := lines_of_two_views mixedText
  refine ⟨hfirst, hsecond, ?_, ?_, hresolve, ?_⟩
  · obtain ⟨-, span, inner, returns, hspan, hslice, hline, hreturns, -⟩ :=
      hinner 0 "a: ä\r".toList (by decide)
    obtain rfl := Option.some_inj.mp (hspan.symm.trans hfirst)
    exact ⟨inner, returns, hslice, hline, hreturns⟩
  · refine hbreak 6 (by decide) fun i span hspan => ?_
    rcases i with _ | _ | i
    · obtain rfl := Option.some_inj.mp (hspan.symm.trans hfirst)
      exact .inr (by decide)
    · obtain rfl := Option.some_inj.mp (hspan.symm.trans hsecond)
      exact .inl (by decide)
    · -- the later spans follow that of the second line
      have hlt : 8 < span.start := (hordered 1 _ hsecond).2 (i + 2) span (by omega) hspan
      exact .inl (by omega)
  · obtain ⟨span, typed, hspan, htyped, -⟩ := htyped ⟨0, 9⟩ _ hresolve
    obtain rfl := Option.some_inj.mp (hspan.symm.trans hfirst)
    exact ⟨typed, htyped⟩

end PrimitiveDesk
