import PrimitiveDesk.Proofs.Text.LineEdit

/-!
# Offsets and positions

The offsets at which a text can be cut and the positions of an editor name the same places. Behind
both stands one description of a place: the number of a line, and what of that line is in front of
the place (`LineIndex.Cuts`). The offset counts the bytes up to there, the position counts units of
UTF-16 since the start of the line, and both counts grow with every character. The two differ only
where a line ends: the carriage returns of a line ending have positions of their own, but a position
that lies behind the line is taken back to its end.

Every character boundary is a place on a line (`LineIndex.exists_cuts_append`), and
`LineIndex.Cuts.position_eq` and `LineIndex.exists_cuts_offset` are the two counts of a place, by
`position` and by `offset`. An offset inside of a character has a position too, which is of no use
(`LineIndex.Cuts.position_inside`).
-/

namespace PrimitiveDesk

namespace Text

/-! ## Units -/

theorem one_le_unitsOf (c : Char) : 1 ≤ unitsOf c := by
  unfold unitsOf
  split <;> omega

/-- A character has at least as many bytes as units. -/
theorem unitsOf_le_utf8Size (c : Char) : unitsOf c ≤ c.utf8Size := by
  unfold unitsOf
  split
  · have := c.utf8Size_pos
    omega
  · next hlarge =>
    -- what needs two units lies above all characters of three bytes
    have hfour : c.utf8Size = 4 := by
      have hval : 0x10000 ≤ c.val.toNat := Nat.le_of_not_lt hlarge
      rw [Char.utf8Size_eq_four_iff, UInt32.lt_iff_toNat_lt]
      have hbound : (0xFFFF : UInt32).toNat = 0xFFFF := rfl
      omega
    omega

/-- `units` adds up over the parts of a text. -/
theorem units_append (xs ys : List Char) : units (xs ++ ys) = units xs + units ys := by
  induction xs with
  | nil => simp [units]
  | cons c xs ih => simp only [List.cons_append, units, ih, Nat.add_assoc]

/-- A text has at least as many bytes as units. -/
private theorem units_le_byteLength (cs : List Char) : units cs ≤ byteLength cs := by
  induction cs with
  | nil => simp [units, byteLength]
  | cons c cs ih =>
    have := unitsOf_le_utf8Size c
    simp only [units, byteLength]
    omega

private theorem byteLength_eq_zero_iff {cs : List Char} : byteLength cs = 0 ↔ cs = [] := by
  cases cs with
  | nil => simp [byteLength]
  | cons c cs =>
    have := c.utf8Size_pos
    simp only [byteLength, reduceCtorEq, iff_false]
    omega

/-! ## Parts of a line -/

/-- Of two parts at the front of a text, the one with fewer bytes is in front of the other. -/
private theorem prefix_of_byteLength_le {xs ys text : List Char} (hx : xs <+: text)
    (hy : ys <+: text) (h : byteLength xs ≤ byteLength ys) : xs <+: ys := by
  obtain hpart | ⟨rest, rfl⟩ := List.prefix_or_prefix_of_prefix hx hy
  · exact hpart
  · -- the longer part cannot be longer by anything
    rw [byteLength_append] at h
    have hrest : rest = [] := byteLength_eq_zero_iff.mp (by omega)
    simp [hrest]

/-- The units of a part grow with its bytes. -/
private theorem units_lt_of_byteLength_lt {xs ys text : List Char} (hx : xs <+: text)
    (hy : ys <+: text) (h : byteLength xs < byteLength ys) : units xs < units ys := by
  obtain ⟨rest, rfl⟩ := prefix_of_byteLength_le hx hy (Nat.le_of_lt h)
  rw [byteLength_append] at h
  rw [units_append]
  -- the longer part has at least one character more
  cases rest with
  | nil => simp [byteLength] at h
  | cons c rest =>
    have := one_le_unitsOf c
    simp only [units]
    omega

/-- `takeBytes?` finds no part that ends inside of a character. The induction is on what is in front
of the character. -/
private theorem takeBytes?_inside {c : Char} {n : Nat} (front back : List Char) (hn : 0 < n)
    (hsize : n < c.utf8Size) : takeBytes? (front ++ c :: back) (byteLength front + n) = none := by
  induction front with
  | nil =>
    obtain ⟨k, rfl⟩ := Nat.exists_eq_succ_of_ne_zero (Nat.ne_of_gt hn)
    rw [List.nil_append, byteLength, Nat.zero_add, takeBytes?, if_neg (by omega)]
  | cons d front ih =>
    have hpos := d.utf8Size_pos
    obtain ⟨k, hk⟩ : ∃ k, byteLength (d :: front) + n = k + 1 :=
      Nat.exists_eq_succ_of_ne_zero (by omega)
    have hrest : k + 1 - d.utf8Size = byteLength front + n := by
      rw [byteLength] at hk
      omega
    rw [hk, List.cons_append, takeBytes?, hrest, ih]
    simp

/-- `dropReturns` leaves the front of a line. -/
theorem dropReturns_isPrefix (line : List Char) : dropReturns line <+: line := by
  obtain ⟨returns, hreturns, -⟩ := exists_dropReturns line
  exact ⟨returns, hreturns⟩

end Text

/-- One position is before another: the line counts first, then the character. -/
def Position.Before (p q : Position) : Prop :=
  p.line < q.line ∨ p.line = q.line ∧ p.character < q.character

namespace LineIndex

open Text

/-! ## Line starts -/

section Lines

variable {ix : LineIndex} {i j : Nat} {line : List Char}

/-- The next line starts behind the line feed. -/
private theorem lineStart_succ (h : ix.lines[i]? = some line) :
    ix.lineStart (i + 1) = ix.lineStart i + byteLength line + 1 := by
  obtain ⟨lines⟩ := ix
  induction lines generalizing i with
  | nil => simp at h
  | cons l lines ih =>
    cases i with
    | zero =>
      obtain rfl : l = line := by simpa using h
      simp [lineStart]
    | succ i =>
      have hrest := ih (by simpa using h)
      simp only [lineStart, List.take_succ_cons, List.foldr_cons] at hrest ⊢
      omega

/-- The next line does not start earlier. -/
private theorem lineStart_le_succ (ix : LineIndex) (i : Nat) :
    ix.lineStart i ≤ ix.lineStart (i + 1) := by
  cases h : ix.lines[i]? with
  | some line =>
    rw [lineStart_succ h]
    omega
  | none =>
    -- past the last line nothing is added any more
    have hlength : ix.lines.length ≤ i := List.getElem?_eq_none_iff.mp h
    refine Nat.le_of_eq ?_
    unfold lineStart
    rw [List.take_of_length_le hlength, List.take_of_length_le (by omega)]

private theorem lineStart_mono (ix : LineIndex) (h : i ≤ j) : ix.lineStart i ≤ ix.lineStart j := by
  induction h with
  | refl => exact Nat.le_refl _
  | step _ ih => exact Nat.le_trans ih (ix.lineStart_le_succ _)

/-- A line ends in front of every later line. -/
theorem lt_lineStart_of_lt (h : ix.lines[i]? = some line) (hij : i < j) :
    ix.lineStart i + byteLength line < ix.lineStart j := by
  have hnext := lineStart_succ h
  have hmono := ix.lineStart_mono (Nat.succ_le_of_lt hij)
  rw [Nat.succ_eq_add_one] at hmono
  omega

/-- Every line in front takes at least a byte. -/
private theorem le_lineStart (h : i ≤ ix.lineCount) : i ≤ ix.lineStart i := by
  induction i with
  | zero => exact Nat.zero_le _
  | succ i ih =>
    have hline : i < ix.lines.length := h
    have hstart := lineStart_succ (List.getElem?_eq_getElem hline)
    have := ih (Nat.le_of_lt hline)
    omega

end Lines

/-- The lines with their line feeds make up the text. -/
private theorem lineStart_lineCount (cs : List Char) :
    lineStart ⟨rawLines cs⟩ (rawLines cs).length = byteLength cs + 1 := by
  unfold lineStart
  rw [List.take_length]
  induction cs with
  | nil => rfl
  | cons c cs ih =>
    rw [rawLines]
    by_cases hc : c = '\n'
    · have hfeed : c.utf8Size = 1 := by rw [hc]; decide
      rw [if_pos hc, List.foldr_cons, ih, byteLength, byteLength, hfeed]
      omega
    · -- the character belongs to the first line
      obtain ⟨l, ls, hl⟩ := List.exists_cons_of_ne_nil (rawLines_ne_nil cs)
      rw [hl, List.foldr_cons] at ih
      rw [if_neg hc, hl, byteLength]
      simp only [List.foldr_cons, byteLength]
      omega

/-- `byteSize` is the length of the text. -/
@[simp] private theorem byteSize_ofText (text : String) :
    (ofText text).byteSize = text.utf8ByteSize := by
  have hall : (ofText text).lineStart (ofText text).lineCount = byteLength text.toList + 1 :=
    lineStart_lineCount text.toList
  unfold byteSize
  rw [hall, byteLength_toList]
  omega

/-! ## Places on a line -/

/-- A byte offset cuts a line into what is in front of it and what is behind it. -/
structure Cuts (ix : LineIndex) (o i : Nat) (front back : List Char) : Prop where
  line : ix.lines[i]? = some (front ++ back)
  offset : o = ix.lineStart i + byteLength front

/-- Behind any part of a text stands a place on a line, and behind that place the first line of what
follows the part. The induction is on the part; each character of it moves the place by a line or
along the first line. -/
theorem exists_cuts_append (xs ys : List Char) :
    ∃ i front back, Cuts ⟨rawLines (xs ++ ys)⟩ (byteLength xs) i front back ∧
      (rawLines ys).head? = some back := by
  induction xs with
  | nil =>
    obtain ⟨l, ls, hl⟩ := List.exists_cons_of_ne_nil (rawLines_ne_nil ys)
    exact ⟨0, [], l, ⟨by simp [hl], by simp [lineStart, byteLength]⟩, by rw [hl, List.head?_cons]⟩
  | cons c xs ih =>
    obtain ⟨i, front, back, ⟨hline, hoffset⟩, hhead⟩ := ih
    rw [List.cons_append, rawLines, byteLength]
    by_cases hc : c = '\n'
    · -- one more line stands in front
      have hfeed : c.utf8Size = 1 := by rw [hc]; decide
      rw [if_pos hc, hfeed]
      refine ⟨i + 1, front, back, ⟨by simpa using hline, ?_⟩, hhead⟩
      have hstart : lineStart ⟨[] :: rawLines (xs ++ ys)⟩ (i + 1) =
          1 + lineStart ⟨rawLines (xs ++ ys)⟩ i := by simp [lineStart, byteLength]
      omega
    · rw [if_neg hc]
      obtain ⟨l, ls, hl⟩ := List.exists_cons_of_ne_nil (rawLines_ne_nil (xs ++ ys))
      rw [hl] at hline hoffset ⊢
      -- the character belongs to the first line, on which the place may lie
      cases i with
      | zero =>
        obtain rfl : l = front ++ back := by simpa using hline
        refine ⟨0, c :: front, back, ⟨by simp, ?_⟩, hhead⟩
        simp only [lineStart, List.take_zero, List.foldr_nil, byteLength] at hoffset ⊢
        omega
      | succ i =>
        refine ⟨i + 1, front, back, ⟨by simpa using hline, ?_⟩, hhead⟩
        simp only [lineStart, List.take_succ_cons, List.foldr_cons, byteLength] at hoffset ⊢
        omega

/-- Every character boundary is a place on a line. -/
private theorem exists_cuts {text : String} {o : Nat} (h : IsCharBoundary text o) :
    ∃ i front back, (ofText text).Cuts o i front back := by
  obtain ⟨n, rfl⟩ := isCharBoundary_iff.mp h
  obtain ⟨i, front, back, hcuts, -⟩ :=
    exists_cuts_append (text.toList.take n) (text.toList.drop n)
  rw [List.take_append_drop, ← byteOffset_eq_byteLength_take] at hcuts
  exact ⟨i, front, back, hcuts⟩

/-- A character that ends no line stands on the line behind its place. -/
theorem exists_cuts_cons {text : String} {n : Nat} {c : Char} {rest : List Char}
    (h : text.toList.drop n = c :: rest) (hc : c ≠ '\n') :
    ∃ i front back, (ofText text).Cuts (byteOffset text.toList n) i front (c :: back) := by
  obtain ⟨i, front, back, hcuts, hhead⟩ :=
    exists_cuts_append (text.toList.take n) (text.toList.drop n)
  rw [List.take_append_drop, ← byteOffset_eq_byteLength_take] at hcuts
  obtain ⟨l, ls, hl⟩ := List.exists_cons_of_ne_nil (rawLines_ne_nil rest)
  have hback : c :: l = back := by
    rw [h, rawLines, if_neg hc, hl] at hhead
    exact Option.some.inj hhead
  exact ⟨i, front, l, hback ▸ hcuts⟩

section Cuts

variable {ix : LineIndex} {text : String} {o o' i j : Nat} {front back front' back' : List Char}

/-- A place on a line is a character boundary. -/
theorem Cuts.isCharBoundary (h : (ofText text).Cuts o i front back) : IsCharBoundary text o := by
  obtain ⟨before, behind, htext, -, hstart, -⟩ := exists_rawLines_edit h.line
  have hoffset : o = byteLength (before ++ front) := by
    rw [byteLength_append, hstart]
    exact h.offset
  have htake : text.toList.take (before ++ front).length = before ++ front := by
    rw [htext, ← List.append_assoc before, List.append_assoc, List.take_left]
  refine isCharBoundary_iff.mpr ⟨(before ++ front).length, ?_⟩
  rw [byteOffset_eq_byteLength_take, htake, hoffset]

/-- The text from the start of its line to a place. -/
theorem Cuts.slice?_eq (h : (ofText text).Cuts o i front back) :
    slice? text.toList ⟨(ofText text).lineStart i, o⟩ = some front := by
  obtain ⟨before, behind, htext, -, hstart, -⟩ := exists_rawLines_edit h.line
  have hstart' : (ofText text).lineStart i = byteLength before := hstart.symm
  have hcut : text.toList = before ++ front ++ (back ++ behind) := by
    rw [htext, List.append_assoc before front, List.append_assoc before, List.append_assoc front]
  rw [h.offset, hstart', hcut, slice?_append]

/-- `locate` finds the line of a place by going along the lines. -/
private theorem locate_of_le {lines : List (List Char)} {line : List Char} {bytes : Nat}
    (hline : lines[i]? = some line) (hbytes : bytes ≤ byteLength line) :
    locate lines (lineStart ⟨lines⟩ i + bytes) = (i, line, bytes) := by
  induction lines generalizing i with
  | nil => simp at hline
  | cons l lines ih =>
    cases i with
    | zero =>
      obtain rfl : l = line := by simpa using hline
      have hstart : lineStart ⟨l :: lines⟩ 0 + bytes = bytes := by simp [lineStart]
      rw [hstart]
      cases lines with
      | nil => rfl
      | cons m lines => rw [locate, if_pos hbytes]
    | succ i =>
      have hrest : lines[i]? = some line := by simpa using hline
      have hstart : lineStart ⟨l :: lines⟩ (i + 1) =
          byteLength l + 1 + lineStart ⟨lines⟩ i := by simp [lineStart]
      cases lines with
      | nil => simp at hrest
      | cons m lines =>
        rw [locate, if_neg (by omega)]
        -- the line and its line feed are passed, and the rest is looked for behind them
        have hoffset : lineStart ⟨l :: m :: lines⟩ (i + 1) + bytes - (byteLength l + 1) =
            lineStart ⟨m :: lines⟩ i + bytes := by omega
        rw [hoffset, ih hrest]

/-- `position` of an offset on a line. -/
private theorem position_of_line {line : List Char} {bytes : Nat} (hline : ix.lines[i]? = some line)
    (hbytes : bytes ≤ byteLength line) :
    ix.position (ix.lineStart i + bytes) = ⟨i, ((takeBytes? line bytes).map units).getD bytes⟩ := by
  -- the offset lies inside the text, so it is not clamped
  have hlast : i < ix.lineCount := (List.getElem?_eq_some_iff.mp hline).1
  have hend := lt_lineStart_of_lt hline hlast
  have hmin : min (ix.lineStart i + bytes) ix.byteSize = ix.lineStart i + bytes := by
    unfold byteSize
    omega
  unfold position
  rw [hmin, locate_of_le hline hbytes]

/-- `position` counts the units in front of a place. -/
theorem Cuts.position_eq (h : ix.Cuts o i front back) : ix.position o = ⟨i, units front⟩ := by
  have hbytes : byteLength front ≤ byteLength (front ++ back) := by
    rw [byteLength_append]
    omega
  rw [h.offset, position_of_line h.line hbytes, takeBytes?_append]
  rfl

/-- `position` counts bytes inside of a character, where there are no units. -/
theorem Cuts.position_inside {c : Char} {n : Nat} (h : ix.Cuts o i front (c :: back)) (hn : 0 < n)
    (hsize : n < c.utf8Size) : ix.position (o + n) = ⟨i, byteLength front + n⟩ := by
  have hlength : byteLength (front ++ c :: back) =
      byteLength front + c.utf8Size + byteLength back := by
    rw [byteLength_append, byteLength, Nat.add_assoc]
  have hbytes : byteLength front + n ≤ byteLength (front ++ c :: back) := by omega
  rw [h.offset, Nat.add_assoc, position_of_line h.line hbytes,
    takeBytes?_inside front back hn hsize]
  rfl

/-- The numbers of a position are at most the offset. -/
private theorem Cuts.position_le (h : ix.Cuts o i front back) :
    (ix.position o).line ≤ o ∧ (ix.position o).character ≤ o := by
  have hline : i ≤ ix.lineStart i :=
    le_lineStart (Nat.le_of_lt (List.getElem?_eq_some_iff.mp h.line).1)
  have hunits := units_le_byteLength front
  have hoffset := h.offset
  rw [h.position_eq]
  constructor <;> simp only <;> omega

/-- A later place has a later position. -/
private theorem Cuts.before (h : ix.Cuts o i front back) (h' : ix.Cuts o' j front' back')
    (hlt : o < o') :
    (ix.position o).Before (ix.position o') := by
  have hoffset := h.offset
  have hoffset' := h'.offset
  rw [h.position_eq, h'.position_eq]
  by_cases hij : i < j
  · exact .inl hij
  · by_cases hji : j < i
    · -- a place on an earlier line is not behind one on a later line
      have hend := lt_lineStart_of_lt h'.line hji
      rw [byteLength_append] at hend
      omega
    · obtain rfl : i = j := by omega
      have hsame : front' ++ back' = front ++ back :=
        Option.some_inj.mp (h'.line.symm.trans h.line)
      have hunits : units front < units front' :=
        units_lt_of_byteLength_lt (List.prefix_append front back)
          (hsame ▸ List.prefix_append front' back') (by omega)
      exact .inr ⟨rfl, hunits⟩

end Cuts

/-! ## Offsets of positions -/

/-- `bytesOfUnits` leads behind a part of a text by the units of the part. -/
private theorem bytesOfUnits_units (front back : List Char) :
    bytesOfUnits (front ++ back) (units front) = byteLength front := by
  induction front with
  | nil => cases back <;> rfl
  | cons c front ih =>
    have hpos := one_le_unitsOf c
    have hne : units (c :: front) ≠ 0 := by simp only [units]; omega
    have hrest : units (c :: front) - unitsOf c = units front := by simp only [units]; omega
    rw [List.cons_append, bytesOfUnits, if_neg hne, hrest, ih, byteLength]

/-- `bytesOfUnits` leads behind a part of a text by any number of units. -/
private theorem exists_prefix_bytesOfUnits (cs : List Char) (n : Nat) :
    ∃ front back, cs = front ++ back ∧ bytesOfUnits cs n = byteLength front := by
  induction cs generalizing n with
  | nil => exact ⟨[], [], rfl, rfl⟩
  | cons c cs ih =>
    by_cases hn : n = 0
    · exact ⟨[], c :: cs, rfl, by rw [bytesOfUnits, if_pos hn]; rfl⟩
    · obtain ⟨front, back, hcs, hbytes⟩ := ih (n - unitsOf c)
      refine ⟨c :: front, back, by rw [hcs]; rfl, ?_⟩
      rw [bytesOfUnits, if_neg hn, hbytes, byteLength]

section Offset

variable {ix : LineIndex} {text : String} {p : Position} {line : List Char} {span : Span}

/-- `offset` goes along the line without its ending. -/
private theorem offset_of_line (h : ix.lines[p.line]? = some line) :
    ix.offset p = ix.lineStart p.line + bytesOfUnits (dropReturns line) p.character := by
  unfold offset
  rw [h]

/-- `lineSpan?` is the span of the line without its ending. -/
theorem lineSpan?_of_line {i : Nat} (h : ix.lines[i]? = some line) :
    ix.lineSpan? i = some ⟨ix.lineStart i, ix.lineStart i + byteLength (dropReturns line)⟩ := by
  unfold lineSpan?
  rw [h]
  rfl

/-- A part of a line without its ending is also a part of the whole line. -/
private theorem exists_append_of_isPrefix {front : List Char} (h : front <+: dropReturns line) :
    ∃ back, line = front ++ back := by
  obtain ⟨back, hback⟩ := h.trans (dropReturns_isPrefix line)
  exact ⟨back, hback.symm⟩

/-- `offset` gives a place on the line, in front of the line ending. -/
theorem exists_cuts_offset (h : ix.lines[p.line]? = some line) :
    ∃ front back, front <+: dropReturns line ∧ ix.Cuts (ix.offset p) p.line front back := by
  obtain ⟨front, rest, hfront, hbytes⟩ := exists_prefix_bytesOfUnits (dropReturns line) p.character
  have hpart : front <+: dropReturns line := ⟨rest, hfront.symm⟩
  obtain ⟨back, hback⟩ := exists_append_of_isPrefix hpart
  refine ⟨front, back, hpart, by rw [h, hback], ?_⟩
  rw [offset_of_line h, hbytes]

/-- `offset` of a position that counts the units of a part of its line. -/
private theorem cuts_offset_of_units {front : List Char} (h : ix.lines[p.line]? = some line)
    (hpart : front <+: dropReturns line) (hunits : units front = p.character) :
    ∃ back, ix.Cuts (ix.offset p) p.line front back := by
  obtain ⟨back, hback⟩ := exists_append_of_isPrefix hpart
  obtain ⟨rest, hrest⟩ := hpart
  refine ⟨back, by rw [h, hback], ?_⟩
  rw [offset_of_line h, ← hrest, ← hunits, bytesOfUnits_units]

/-- The text inside the span of a line is the line without its ending. -/
theorem slice?_lineSpan (h : (ofText text).lines[p.line]? = some line) :
    slice? text.toList ⟨(ofText text).lineStart p.line,
        (ofText text).lineStart p.line + byteLength (dropReturns line)⟩ =
      some (dropReturns line) := by
  obtain ⟨returns, hreturns, -⟩ := exists_dropReturns line
  have hcuts : (ofText text).Cuts
      ((ofText text).lineStart p.line + byteLength (dropReturns line)) p.line (dropReturns line)
      returns := ⟨by rw [h, hreturns], rfl⟩
  exact hcuts.slice?_eq

end Offset

/-- Offsets and positions of a text of less than 2³² bytes. A boundary is on a line, and comes back
from its position if it lies in the span of that line. Where a line exists, its text stands in its
span, and a position that counts the units of a part of that text comes back from its offset. Later
boundaries have later positions, whose numbers fit 32 bits. The offset of any position is a
boundary, inside the span of its line or at the end of the text if there is no such line. -/
theorem offset_position_inverse (text : String) (hsize : text.utf8ByteSize < 0x100000000) :
    let ix := ofText text
    (∀ o, IsCharBoundary text o →
        ∃ span, ix.lineSpan? (ix.position o).line = some span ∧
          (span.contains o → ix.offset (ix.position o) = o)) ∧
      (∀ p span, ix.lineSpan? p.line = some span →
        ∃ line, slice? text.toList span = some line ∧
          ∀ front, front <+: line → units front = p.character → ix.position (ix.offset p) = p) ∧
      (∀ o o', IsCharBoundary text o → IsCharBoundary text o' → o < o' →
        (ix.position o).Before (ix.position o')) ∧
      (∀ o, IsCharBoundary text o →
        (ix.position o).line < 0x100000000 ∧ (ix.position o).character < 0x100000000) ∧
      ∀ p, IsCharBoundary text (ix.offset p) ∧
        ((∃ span, ix.lineSpan? p.line = some span ∧ span.contains (ix.offset p)) ∨
          ix.lineSpan? p.line = none ∧ ix.offset p = text.utf8ByteSize) := by
  intro ix
  have hplace : ∀ {o}, IsCharBoundary text o → ∃ i front back, ix.Cuts o i front back :=
    exists_cuts
  refine ⟨?_, ?_, ?_, ?_, ?_⟩
  · intro o ho
    obtain ⟨i, front, back, hcuts⟩ := hplace ho
    have hposition := hcuts.position_eq
    have hoffset := hcuts.offset
    rw [hposition]
    refine ⟨_, lineSpan?_of_line hcuts.line, fun hcontains => ?_⟩
    -- what is in front of the offset ends in front of the line ending
    have hle : byteLength front ≤ byteLength (dropReturns (front ++ back)) := by
      simp only [Span.contains, Bool.and_eq_true, decide_eq_true_eq] at hcontains
      omega
    have hpart : front <+: dropReturns (front ++ back) :=
      prefix_of_byteLength_le (List.prefix_append front back) (dropReturns_isPrefix _) hle
    obtain ⟨rest, hback⟩ := cuts_offset_of_units (p := ⟨i, units front⟩) hcuts.line hpart rfl
    rw [hback.offset, hoffset]
  · intro p span hspan
    obtain ⟨line, hline, rfl⟩ := Option.map_eq_some_iff.mp hspan
    refine ⟨dropReturns line, slice?_lineSpan hline, fun front hpart hunits => ?_⟩
    obtain ⟨back, hcuts⟩ := cuts_offset_of_units hline hpart hunits
    rw [hcuts.position_eq, hunits]
  · intro o o' ho ho' hlt
    obtain ⟨i, front, back, hcuts⟩ := hplace ho
    obtain ⟨j, front', back', hcuts'⟩ := hplace ho'
    exact hcuts.before hcuts' hlt
  · intro o ho
    obtain ⟨i, front, back, hcuts⟩ := hplace ho
    have hle := hcuts.position_le
    have hinside := ho.le_utf8ByteSize
    omega
  · intro p
    cases hline : ix.lines[p.line]? with
    | some line =>
      obtain ⟨front, back, hpart, hcuts⟩ := exists_cuts_offset hline
      refine ⟨hcuts.isCharBoundary, .inl ⟨_, lineSpan?_of_line hline, ?_⟩⟩
      obtain ⟨rest, hrest⟩ := hpart
      have hoffset := hcuts.offset
      simp only [Span.contains, ← hrest, byteLength_append, Bool.and_eq_true, decide_eq_true_eq]
      omega
    | none =>
      have hoffset : ix.offset p = text.utf8ByteSize := by
        unfold offset
        rw [hline]
        exact byteSize_ofText text
      refine ⟨?_, .inr ⟨by unfold lineSpan?; rw [hline]; rfl, hoffset⟩⟩
      -- the end of the text is behind all its characters
      refine isCharBoundary_iff.mpr ⟨text.toList.length, ?_⟩
      rw [hoffset, byteOffset_eq_byteLength_take, List.take_length, byteLength_eq_utf8ByteSize,
        String.ofList_toList]

/-- Boundaries and positions around a line ending of two characters and a character of two units:
the boundary inside the line ending is past its line, the one behind the character comes back, and
so does its position. -/
theorem offset_position_rocketText :
    let text := "ä\r\n🚀b\n"
    let ix := ofText text
    text.utf8ByteSize < 0x100000000 ∧ IsCharBoundary text 3 ∧ IsCharBoundary text 8 ∧
      (ix.lineSpan? 0 = some ⟨0, 2⟩ ∧ ix.position 3 = ⟨0, 2⟩) ∧
      ix.offset (ix.position 8) = 8 ∧ ix.position (ix.offset ⟨1, 2⟩) = ⟨1, 2⟩ ∧
      (ix.position 3).Before (ix.position 8) ∧ IsCharBoundary text (ix.offset ⟨1, 1⟩) := by
  intro text ix
  have hsize : text.utf8ByteSize < 0x100000000 := by decide
  have h3 : IsCharBoundary text 3 := isCharBoundary_iff.mpr ⟨2, by decide⟩
  have h8 : IsCharBoundary text 8 := isCharBoundary_iff.mpr ⟨4, by decide⟩
  obtain ⟨hback, hforth, hbefore, -, hoffset⟩ := offset_position_inverse text hsize
  refine ⟨hsize, h3, h8, by decide, ?_, ?_, hbefore 3 8 h3 h8 (by decide), (hoffset ⟨1, 1⟩).1⟩
  · obtain ⟨span, hspan, hinside⟩ := hback 8 h8
    obtain rfl : span = ⟨4, 9⟩ := Option.some_inj.mp (hspan.symm.trans (by decide))
    exact hinside (by decide)
  · obtain ⟨line, hline, hunits⟩ := hforth ⟨1, 2⟩ ⟨4, 9⟩ (by decide)
    obtain rfl : line = ['🚀', 'b'] := Option.some_inj.mp (hline.symm.trans (by decide))
    exact hunits ['🚀'] ⟨['b'], rfl⟩ (by decide)

end LineIndex

end PrimitiveDesk
