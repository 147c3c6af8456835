import PrimitiveDesk.Proofs.Yaml.Reads
import PrimitiveDesk.Yaml.Token.Scanner

/-!
# Tokens in the order of the text

The scanner puts the tokens of a key in front of tokens that it has read before. All the same its
tokens stand in the order of the text: each ends where the next one starts, or in front of it, and
something stands between a document marker and what follows it. Many tokens stand for no character,
but one with which a mapping may start stands at a character that is no blank.

The invariant is about an index: all tokens were read in front of it, and a pending key knows which
of them stand in front of the place where it may have started (`ReadBefore`). Reading a token raises
the index (`ReadBefore.concat`), and putting one where a pending key started keeps it
(`ReadBefore.insert`). The rest of the module says of each part of the scanner which of the two it
does, and that behind the blanks the next token may start (`Scanner.Resting.skip`), at a character
or at the end of the text (`Scanner.endsWord_skip`).
-/

namespace PrimitiveDesk.Yaml

open Cursor

/-! ## Tokens and the text -/

/-- A token ends in front of an index. If it is a document marker, something stands between the two,
unless the text has ended; `n` is its length. -/
structure Token.Precedes (t : Token) (n i : Nat) : Prop where
  start_le_stop : t.extent.start.index ≤ t.extent.stop.index
  stop_le : t.extent.stop.index ≤ i
  apart : t.kind.isMarker = true → t.extent.stop.index < i ∨ n ≤ i

/-- A document marker is written where it starts, and a token with which a mapping may start stands
at a character that is no blank. -/
structure Token.IsWritten (t : Token) (cs : List Char) : Prop where
  startsDocument : t.kind = .documentStart → startsDocument (cs.drop t.extent.start.index) = true
  endsDocument : t.kind = .documentEnd → endsDocument (cs.drop t.extent.start.index) = true
  stop_eq : t.kind.isMarker = true → t.extent.stop.index = t.extent.start.index + 3
  onContent : t.kind.bringsMapping = true → endsWord (cs.drop t.extent.start.index) = false

namespace Token

variable {t : Token} {n i j : Nat}

private theorem Precedes.mono (h : t.Precedes n i) (hij : i ≤ j) : t.Precedes n j where
  start_le_stop := h.start_le_stop
  stop_le := Nat.le_trans h.stop_le hij
  apart hmarker := by
    have := h.apart hmarker
    omega

/-- A token that is no marker may touch the index. -/
theorem precedes_of_not_marker (hmarker : t.kind.isMarker = false)
    (hstart : t.extent.start.index ≤ t.extent.stop.index) (hstop : t.extent.stop.index ≤ i) :
    t.Precedes n i :=
  ⟨hstart, hstop, by simp [hmarker]⟩

/-- Of a token that is no marker only the character is asked. -/
theorem isWritten_of_not_marker {cs : List Char} (hmarker : t.kind.isMarker = false)
    (hcontent : t.kind.bringsMapping = true → endsWord (cs.drop t.extent.start.index) = false) :
    t.IsWritten cs := by
  refine ⟨fun h => ?_, fun h => ?_, by simp [hmarker], hcontent⟩ <;>
  · rw [h] at hmarker
    cases hmarker

end Token

/-- Tokens stand in the order of the text. -/
structure InOrder (cs : List Char) (ts : List Token) : Prop where
  pairwise : ts.Pairwise fun t u => t.Precedes cs.length u.extent.start.index
  start_le_stop : ∀ t ∈ ts, t.extent.start.index ≤ t.extent.stop.index
  written : ∀ t ∈ ts, t.IsWritten cs

/-- Some of the tokens are in order if all are. -/
theorem InOrder.sublist {cs : List Char} {ts us : List Token} (h : InOrder cs ts)
    (hus : us.Sublist ts) : InOrder cs us where
  pairwise := h.pairwise.sublist hus
  start_le_stop t ht := h.start_le_stop t (hus.subset ht)
  written t ht := h.written t (hus.subset ht)

/-! ## Tokens and pending keys -/

/-- The place where a key may have started is a character that is no blank, between the tokens in
front of its number and the others. -/
structure PendingKey.Fits (k : PendingKey) (cs : List Char) (m : Nat) (ts : List Token) :
    Prop where
  tokenNumber_le : k.tokenNumber ≤ ts.length
  mark_le : k.mark.index ≤ m
  precedes : ∀ t ∈ ts.take k.tokenNumber, t.Precedes cs.length k.mark.index
  le_start : ∀ t ∈ ts.drop k.tokenNumber, k.mark.index ≤ t.extent.start.index
  onContent : endsWord (cs.drop k.mark.index) = false

/-- The tokens and the pending keys, innermost first, were read in front of the index `m` of a text,
and the cursor is in that text. -/
structure ReadBefore (cs : List Char) (m : Nat) (c : Cursor) (ts : List Token)
    (ks : List PendingKey) : Prop where
  rest_eq : c.rest = cs.drop c.mark.index
  pairwise : ts.Pairwise fun t u => t.Precedes cs.length u.extent.start.index
  precedes : ∀ t ∈ ts, t.Precedes cs.length m
  written : ∀ t ∈ ts, t.IsWritten cs
  fits : ∀ k ∈ ks, k.Fits cs m ts
  nested : ks.Pairwise fun k outer =>
    outer.tokenNumber ≤ k.tokenNumber ∧ outer.mark.index ≤ k.mark.index

namespace ReadBefore

variable {cs : List Char} {m m' : Nat} {c c' : Cursor} {ts : List Token} {t : Token}
  {k : PendingKey} {ks ks' : List PendingKey}

theorem inOrder (h : ReadBefore cs m c ts ks) : InOrder cs ts :=
  ⟨h.pairwise, fun t ht => (h.precedes t ht).start_le_stop, h.written⟩

theorem raise (h : ReadBefore cs m c ts ks) (hm : m ≤ m') : ReadBefore cs m' c ts ks :=
  { h with
    precedes := fun t ht => (h.precedes t ht).mono hm
    fits := fun k hk => { h.fits k hk with mark_le := Nat.le_trans (h.fits k hk).mark_le hm } }

theorem reads (h : ReadBefore cs m c ts ks) (hc : c.Reads c') : ReadBefore cs m c' ts ks := by
  obtain ⟨n, hrest, hindex⟩ := hc
  exact { h with rest_eq := by rw [hrest, h.rest_eq, List.drop_drop, hindex] }

theorem sublist (h : ReadBefore cs m c ts ks) (hks : ks'.Sublist ks) :
    ReadBefore cs m c ts ks' :=
  { h with
    fits := fun k hk => h.fits k (hks.subset hk)
    nested := h.nested.sublist hks }

/-- A token that starts behind the index comes last. -/
theorem concat (h : ReadBefore cs m c ts ks) (hstart : m ≤ t.extent.start.index)
    (ht : t.Precedes cs.length m') (hwritten : t.IsWritten cs) :
    ReadBefore cs m' c (ts ++ [t]) ks := by
  have hm : m ≤ m' := Nat.le_trans hstart (Nat.le_trans ht.start_le_stop ht.stop_le)
  refine { h with pairwise := ?_, precedes := ?_, written := ?_, fits := ?_ }
  · refine List.pairwise_append.mpr ⟨h.pairwise, List.pairwise_singleton _ _, ?_⟩
    intro a ha b hb
    rw [List.mem_singleton.mp hb]
    exact (h.precedes a ha).mono hstart
  · refine List.forall_mem_append.mpr ⟨fun a ha => (h.precedes a ha).mono hm, ?_⟩
    exact fun b hb => List.mem_singleton.mp hb ▸ ht
  · refine List.forall_mem_append.mpr ⟨h.written, ?_⟩
    exact fun b hb => List.mem_singleton.mp hb ▸ hwritten
  · intro k hk
    -- the number of a pending key counts tokens in front of the new one only
    have hfits := h.fits k hk
    refine ⟨?_, Nat.le_trans hfits.mark_le hm, ?_, ?_, hfits.onContent⟩
    · rw [List.length_append]
      exact Nat.le_trans hfits.tokenNumber_le (Nat.le_add_right _ _)
    · rw [List.take_append_of_le_length hfits.tokenNumber_le]
      exact hfits.precedes
    · rw [List.drop_append_of_le_length hfits.tokenNumber_le]
      refine List.forall_mem_append.mpr ⟨hfits.le_start, fun b hb => ?_⟩
      rw [List.mem_singleton.mp hb]
      exact Nat.le_trans hfits.mark_le hstart

/-- A key may start at the index itself, if a character is there. -/
private theorem pend (h : ReadBefore cs m c ts ks) (hnumber : k.tokenNumber = ts.length)
    (hmark : k.mark.index = m) (hcontent : endsWord (cs.drop m) = false) :
    ReadBefore cs m c ts (k :: ks) := by
  refine { h with fits := ?_, nested := ?_ }
  · refine List.forall_mem_cons.mpr
      ⟨⟨Nat.le_of_eq hnumber, Nat.le_of_eq hmark, ?_, ?_, hmark ▸ hcontent⟩, h.fits⟩
    · rw [hmark]
      exact fun t ht => h.precedes t (List.mem_of_mem_take ht)
    · rw [hnumber, List.drop_length]
      simp
  · -- the outer keys started in front of the index, hence not behind this one
    refine List.pairwise_cons.mpr ⟨fun outer houter => ?_, h.nested⟩
    have hfits := h.fits outer houter
    exact ⟨hnumber ▸ hfits.tokenNumber_le, hmark ▸ hfits.mark_le⟩

/-- A token without text may be put where the innermost pending key started. -/
theorem insert (h : ReadBefore cs m c ts (k :: ks)) {kind : TokenKind}
    (hkind : kind.isMarker = false) :
    ReadBefore cs m c (ts.take k.tokenNumber ++ ⟨.empty k.mark, kind⟩ :: ts.drop k.tokenNumber)
      (k :: ks) := by
  have hk := h.fits k List.mem_cons_self
  -- the tokens are split where the key started
  have hsplit := List.pairwise_append.mp
    ((List.take_append_drop k.tokenNumber ts).symm ▸ h.pairwise)
  have hprecedes {n i : Nat} (hi : k.mark.index ≤ i) :
      (⟨.empty k.mark, kind⟩ : Token).Precedes n i :=
    Token.precedes_of_not_marker hkind (Nat.le_refl _) hi
  refine { h with pairwise := ?_, precedes := ?_, written := ?_, fits := ?_ }
  · refine List.pairwise_append.mpr ⟨hsplit.1, List.pairwise_cons.mpr ⟨?_, hsplit.2.1⟩, ?_⟩
    · exact fun b hb => hprecedes (hk.le_start b hb)
    · intro a ha
      exact List.forall_mem_cons.mpr ⟨hk.precedes a ha, hsplit.2.2 a ha⟩
  · refine List.forall_mem_append.mpr ⟨fun a ha => h.precedes a (List.mem_of_mem_take ha), ?_⟩
    exact List.forall_mem_cons.mpr
      ⟨hprecedes hk.mark_le, fun b hb => h.precedes b (List.mem_of_mem_drop hb)⟩
  · refine List.forall_mem_append.mpr ⟨fun a ha => h.written a (List.mem_of_mem_take ha), ?_⟩
    exact List.forall_mem_cons.mpr
      ⟨Token.isWritten_of_not_marker hkind fun _ => hk.onContent,
        fun b hb => h.written b (List.mem_of_mem_drop hb)⟩
  · -- the number of an outer key is not larger, so the new token is behind its place
    intro outer houter
    have hfits := h.fits outer houter
    have hle : outer.tokenNumber ≤ k.tokenNumber ∧ outer.mark.index ≤ k.mark.index := by
      obtain rfl | houter := List.mem_cons.mp houter
      · exact ⟨Nat.le_refl _, Nat.le_refl _⟩
      · exact (List.pairwise_cons.mp h.nested).1 outer houter
    have hlength : outer.tokenNumber ≤ (ts.take k.tokenNumber).length := by
      rw [List.length_take]
      exact Nat.le_min.mpr ⟨hle.1, hfits.tokenNumber_le⟩
    refine ⟨?_, hfits.mark_le, ?_, ?_, hfits.onContent⟩
    · rw [List.length_append]
      exact Nat.le_trans hlength (Nat.le_add_right _ _)
    · rw [List.take_append_of_le_length hlength, List.take_take, Nat.min_eq_left hle.1]
      exact hfits.precedes
    · rw [List.drop_append_of_le_length hlength]
      refine List.forall_mem_append.mpr ⟨fun a ha => ?_, List.forall_mem_cons.mpr ⟨hle.2, ?_⟩⟩
      · rw [List.drop_take] at ha
        exact hfits.le_start a (List.mem_of_mem_take ha)
      · exact fun b hb => Nat.le_trans hle.2 (hk.le_start b hb)

end ReadBefore

/-- What is read is missing from what is unread. -/
private theorem Cursor.Reads.length_eq {c c' : Cursor} (h : c.Reads c') :
    c'.rest.length = c.rest.length - (c'.mark.index - c.mark.index) := by
  obtain ⟨n, hrest, hindex⟩ := h
  rw [hrest, List.length_drop]
  omega

/-! ## The parts of the scanner -/

namespace Scanner

variable {cs : List Char} {s s' : Scanner} {m : Nat} {c : Cursor} {t : Token} {fuel : Nat}

/-- The keys that are still possible. -/
def pending (s : Scanner) : List PendingKey := s.keys.filter (·.possible)

/-- All that was read was read in front of the index. -/
def Before (s : Scanner) (cs : List Char) (m : Nat) : Prop :=
  ReadBefore cs m s.cursor s.tokens.toList s.pending

/-- All that was read was read in front of the cursor, where the next token may start. -/
def Ready (s : Scanner) (cs : List Char) : Prop := s.Before cs s.mark.index

/-- The scanner is ready, and a character that is no blank is at the cursor. -/
def Stopped (s : Scanner) (cs : List Char) : Prop :=
  s.Ready cs ∧ endsWord (cs.drop s.mark.index) = false

/-- All that was read was read in front of the cursor, or of the character behind it if the cursor
is at a blank. -/
def Resting (s : Scanner) (cs : List Char) : Prop :=
  ∃ m, s.Before cs m ∧
    (m ≤ s.mark.index ∨ m = s.mark.index + 1 ∧ s.cursor.rest ≠ [] ∧ endsWord s.cursor.rest = true)

/-- The scanner rests where the index is not ahead of the cursor. -/
theorem Before.resting (h : s.Before cs m) (hm : m ≤ s.mark.index) : s.Resting cs :=
  ⟨m, h, .inl hm⟩

/-- The scanner still rests when the cursor reads on. -/
theorem Resting.reads (h : s.Resting cs) (hc : s.cursor.Reads c) :
    { s with cursor := c }.Resting cs := by
  obtain ⟨m, hm, hle⟩ := h
  refine ⟨m, ReadBefore.reads hm hc, ?_⟩
  obtain ⟨n, hrest, hindex⟩ := hc
  -- one character is enough to pass over the blank
  cases n with
  | zero =>
    show m ≤ c.mark.index ∨ m = c.mark.index + 1 ∧ c.rest ≠ [] ∧ endsWord c.rest = true
    rw [hrest, hindex]
    exact hle
  | succ n =>
    left
    show m ≤ c.mark.index
    have : s.cursor.mark.index = s.mark.index := rfl
    omega

/-! ### Tokens -/

/-- `push` takes a token that starts behind the index. -/
theorem Before.push (h : s.Before cs m) {extent : Extent} {kind : TokenKind} {m' : Nat}
    (hstart : m ≤ extent.start.index) (ht : (⟨extent, kind⟩ : Token).Precedes cs.length m')
    (hwritten : (⟨extent, kind⟩ : Token).IsWritten cs) : (s.push extent kind).Before cs m' := by
  have := ReadBefore.concat h hstart ht hwritten
  rw [← Array.toList_push] at this
  exact this

/-- A token without text may come last at the index itself. -/
theorem Before.pushEmpty (mark : Mark) (h : s.Before cs mark.index) {kind : TokenKind}
    (hkind : kind.isMarker = false)
    (hcontent : kind.bringsMapping = true → endsWord (cs.drop mark.index) = false) :
    (s.push (.empty mark) kind).Before cs mark.index :=
  h.push (Nat.le_refl _) (Token.precedes_of_not_marker hkind (Nat.le_refl _) (Nat.le_refl _))
    (Token.isWritten_of_not_marker hkind hcontent)

/-- `accept` takes a token that lies between the cursor and the new one. -/
theorem Stopped.accept (h : s.Stopped cs) (ht : s.cursor.ReadsToken t c) :
    (s.accept (t, c)).Resting cs := by
  have := ReadBefore.concat (h.1.reads ht.reads) ht.le_start
    (Token.precedes_of_not_marker ht.notMarker ht.start_le_stop ht.stop_le)
    (Token.isWritten_of_not_marker ht.notMarker fun hbrings =>
      ht.start_eq hbrings ▸ h.2)
  rw [← Array.toList_push] at this
  exact Before.resting this (Nat.le_refl _)

/-- A token without text may be put where the innermost key started. -/
theorem Before.insertAt (h : s.Before cs m) {k : PendingKey} {ks : List PendingKey}
    (hkeys : s.pending = k :: ks) (kind : TokenKind) (hkind : kind.isMarker = false) :
    (s.insertAt k.tokenNumber (.empty k.mark) kind).Before cs m := by
  -- on lists, `insertAt` is the insertion of `ReadBefore.insert`
  have htokens : (s.insertAt k.tokenNumber (.empty k.mark) kind).tokens.toList =
      s.tokens.toList.take k.tokenNumber ++
        ⟨.empty k.mark, kind⟩ :: s.tokens.toList.drop k.tokenNumber := by
    have hdrop : (s.tokens.toList.drop k.tokenNumber).take (s.tokens.size - k.tokenNumber) =
        s.tokens.toList.drop k.tokenNumber := List.take_of_length_le (by simp)
    simp [Scanner.insertAt, hdrop]
  unfold Before at h
  rw [hkeys] at h
  unfold Before
  rw [htokens]
  exact (show (s.insertAt k.tokenNumber (.empty k.mark) kind).pending = k :: ks from hkeys) ▸
    h.insert hkind

/-! ### Keys -/

/-- Giving up keys changes nothing that was read. -/
structure Drops (s s' : Scanner) : Prop where
  cursor_eq : s'.cursor = s.cursor
  tokens_eq : s'.tokens = s.tokens
  sublist : s'.pending.Sublist s.pending

theorem Before.drops (h : s.Before cs m) (hs : s.Drops s') : s'.Before cs m := by
  have := ReadBefore.sublist h hs.sublist
  rw [← hs.cursor_eq, ← hs.tokens_eq] at this
  exact this

/-- What leaves the cursor where it is leaves it at the character. -/
theorem Stopped.of_cursor_eq (h : s.Stopped cs) (hs : s'.Before cs s.mark.index)
    (hcursor : s'.cursor = s.cursor) : s'.Stopped cs := by
  have hmark : s'.mark = s.mark := congrArg Cursor.mark hcursor
  constructor
  · rw [Ready, hmark]
    exact hs
  · rw [hmark]
    exact h.2

theorem Ready.drops (h : s.Ready cs) (hs : s.Drops s') : s'.Ready cs := by
  have := Before.drops h hs
  rw [mark, ← hs.cursor_eq] at this
  exact this

theorem Resting.drops (h : s.Resting cs) (hs : s.Drops s') : s'.Resting cs := by
  obtain ⟨m, hm, hle⟩ := h
  refine ⟨m, hm.drops hs, ?_⟩
  rw [mark, hs.cursor_eq]
  exact hle

/-- Giving up some of the keys leaves a part of those that are possible. -/
theorem sublist_giveUp (ks : List PendingKey) (p : PendingKey → Bool) :
    ((ks.map fun k => if p k then { k with possible := false } else k).filter
      (·.possible)).Sublist (ks.filter (·.possible)) := by
  induction ks with
  | nil => exact .refl _
  | cons k ks ih =>
    have hgive : (ks.filter (·.possible)).Sublist ((k :: ks).filter (·.possible)) :=
      (List.sublist_cons_self k ks).filter _
    -- a key that is given up goes away, any other stays or was not possible anyway
    rw [List.map_cons]
    cases hk : p k with
    | true => exact ih.trans hgive
    | false =>
      cases hpossible : k.possible with
      | true => simpa [List.filter_cons, hpossible] using ih.cons_cons k
      | false => simpa [List.filter_cons, hpossible] using ih

/-- `dropStaleKeys` gives up keys of earlier lines. -/
theorem drops_dropStaleKeys (h : s.dropStaleKeys = .ok s') : s.Drops s' := by
  simp only [dropStaleKeys] at h
  split at h
  · simp at h
  · cases h
    exact ⟨rfl, rfl, sublist_giveUp _ _⟩

/-- `removeKey` gives up the innermost key. -/
theorem drops_removeKey (h : s.removeKey = .ok s') : s.Drops s' := by
  unfold removeKey at h
  split at h
  · next k ks hkeys =>
    split at h
    · simp at h
    · cases h
      refine ⟨rfl, rfl, ?_⟩
      unfold pending
      rw [hkeys]
      exact (List.sublist_cons_self k ks).filter _
  · cases h
    exact ⟨rfl, rfl, .refl _⟩

/-- `saveKey` makes the cursor the place where a key may have started. -/
theorem Stopped.saveKey (h : s.Stopped cs) : s.saveKey.Stopped cs := by
  unfold Scanner.saveKey
  split
  · have houter : ReadBefore cs s.mark.index s.cursor s.tokens.toList
        ((s.keys.drop 1).filter (·.possible)) :=
      ReadBefore.sublist h.1 ((List.drop_sublist 1 s.keys).filter _)
    -- the new key takes the place of the innermost one
    exact ⟨houter.pend (k := ⟨true, _, s.tokens.size, s.mark⟩) rfl rfl h.2, h.2⟩
  · exact h

/-! ### Indentation -/

@[simp] private theorem cursor_unrollTo (column : Int) (is : List Indent) (s : Scanner) :
    (unrollTo column is s).cursor = s.cursor := by
  induction is generalizing s with
  | nil => rfl
  | cons i is ih =>
    simp only [unrollTo]
    split
    · rw [ih]
      split <;> rfl
    · rfl

@[simp] theorem cursor_unroll (s : Scanner) (column : Int) :
    (s.unroll column).cursor = s.cursor := by
  unfold unroll
  split
  · exact cursor_unrollTo column s.indents s
  · rfl

/-- `unrollTo` closes blocks with empty tokens at the cursor. -/
private theorem Ready.unrollTo (h : s.Ready cs) (column : Int) (is : List Indent) :
    (unrollTo column is s).Ready cs := by
  induction is generalizing s with
  | nil => exact h
  | cons i is ih =>
    simp only [Scanner.unrollTo]
    split
    · refine ih ?_
      split
      · exact Before.pushEmpty s.mark h rfl nofun
      · exact h
    · exact h

/-- `unroll` closes blocks with empty tokens at the cursor. -/
theorem Ready.unroll (h : s.Ready cs) (column : Int) : (s.unroll column).Ready cs := by
  unfold Scanner.unroll
  split
  · exact h.unrollTo column s.indents
  · exact h

/-- `unroll` leaves the cursor at the character. -/
theorem Stopped.unroll (h : s.Stopped cs) (column : Int) : (s.unroll column).Stopped cs := by
  refine h.of_cursor_eq ?_ (cursor_unroll s column)
  have := h.1.unroll column
  rwa [Ready, mark, cursor_unroll] at this

private theorem exists_unrollOne (s : Scanner) (column : Nat) :
    ∃ indent indents, s.unrollOne column = { s with indent := indent, indents := indents } := by
  unfold unrollOne
  split
  · split
    · exact ⟨_, _, rfl⟩
    · exact ⟨_, _, rfl⟩
  · exact ⟨_, _, rfl⟩

/-- `roll` changes the indentation, and adds a token unless a block of that indentation is open. -/
private theorem exists_roll (s : Scanner) (column : Nat) (number? : Option Nat) (kind : TokenKind)
    (mark : Mark) : ∃ indent indents,
      s.roll column number? kind mark = { s with indent := indent, indents := indents } ∨
      s.roll column number? kind mark =
        number?.elim ({ s with indent := indent, indents := indents }.push (.empty mark) kind)
          (fun n =>
            { s with indent := indent, indents := indents }.insertAt n (.empty mark) kind) := by
  -- the indentation is unrolled by one first, which adds no token
  obtain ⟨indent, indents, hone⟩ := exists_unrollOne s column
  simp only [roll, hone]
  split
  · exact ⟨_, _, .inl rfl⟩
  · split
    · refine ⟨column, ⟨indent, true⟩ :: indents, .inr ?_⟩
      cases number? <;> rfl
    · exact ⟨_, _, .inl rfl⟩

/-- `rollOne` changes the indentation only. -/
private theorem exists_rollOne (s : Scanner) :
    ∃ indent indents, s.rollOne = { s with indent := indent, indents := indents } := by
  unfold rollOne
  split
  · split
    · exact ⟨_, _, rfl⟩
    · exact ⟨_, _, rfl⟩
  · exact ⟨_, _, rfl⟩

/-- `roll` may open a block at the index. -/
theorem Before.roll {mark : Mark} (h : s.Before cs mark.index) (column : Nat) (kind : TokenKind)
    (hkind : kind.isMarker = false)
    (hcontent : kind.bringsMapping = true → endsWord (cs.drop mark.index) = false) :
    (s.roll column none kind mark).Before cs mark.index := by
  obtain ⟨indent, indents, hroll | hroll⟩ := exists_roll s column none kind mark
  · rw [hroll]
    exact h
  · rw [hroll]
    exact h.pushEmpty mark hkind hcontent

/-- `roll` may open a block where the innermost pending key started. -/
theorem Before.rollAt (h : s.Before cs m) (column : Nat) {k : PendingKey} {ks : List PendingKey}
    (hkeys : s.pending = k :: ks) (kind : TokenKind) (hkind : kind.isMarker = false) :
    (s.roll column (some k.tokenNumber) kind k.mark).Before cs m := by
  obtain ⟨indent, indents, hroll | hroll⟩ := exists_roll s column (some k.tokenNumber) kind k.mark
  · rw [hroll]
    exact h
  · rw [hroll]
    exact Before.insertAt h hkeys kind hkind

/-- `roll` leaves the cursor. -/
@[simp] theorem cursor_roll (s : Scanner) (column : Nat) (number? : Option Nat) (kind : TokenKind)
    (mark : Mark) : (s.roll column number? kind mark).cursor = s.cursor := by
  obtain ⟨indent, indents, hroll | hroll⟩ := exists_roll s column number? kind mark
  · rw [hroll]
  · rw [hroll]
    cases number? <;> rfl

/-- `roll` leaves the pending keys. -/
@[simp] theorem keys_roll (s : Scanner) (column : Nat) (number? : Option Nat) (kind : TokenKind)
    (mark : Mark) : (s.roll column number? kind mark).keys = s.keys := by
  obtain ⟨indent, indents, hroll | hroll⟩ := exists_roll s column number? kind mark
  · rw [hroll]
  · rw [hroll]
    cases number? <;> rfl

theorem Before.rollOne (h : s.Before cs m) : s.rollOne.Before cs m := by
  obtain ⟨indent, indents, hroll⟩ := exists_rollOne s
  rw [hroll]
  exact h

@[simp] theorem cursor_rollOne (s : Scanner) : s.rollOne.cursor = s.cursor := by
  obtain ⟨indent, indents, hroll⟩ := exists_rollOne s
  rw [hroll]

@[simp] theorem keys_rollOne (s : Scanner) : s.rollOne.keys = s.keys := by
  obtain ⟨indent, indents, hroll⟩ := exists_rollOne s
  rw [hroll]

/-! ### Blanks -/

/-- Passing over blanks moves the cursor, and may allow a key where it stops. -/
def Skips (s s' : Scanner) : Prop :=
  ∃ c allowed, s' = { s with cursor := c, keyAllowed := allowed } ∧ s.cursor.Reads c

private theorem Skips.refl (s : Scanner) : s.Skips s := ⟨_, _, rfl, .refl _⟩

private theorem Skips.trans {s₁ s₂ s₃ : Scanner} (h₁ : s₁.Skips s₂) (h₂ : s₂.Skips s₃) :
    s₁.Skips s₃ := by
  obtain ⟨c, allowed, rfl, hc⟩ := h₁
  obtain ⟨c', allowed', rfl, hc'⟩ := h₂
  exact ⟨c', allowed', rfl, hc.trans hc'⟩

private theorem Skips.of_reads (hc : s.cursor.Reads c) (allowed : Bool) :
    s.Skips { s with cursor := c, keyAllowed := allowed } :=
  ⟨c, allowed, rfl, hc⟩

private theorem Skips.reads (h : s.Skips s') : s.cursor.Reads s'.cursor := by
  obtain ⟨c, allowed, rfl, hc⟩ := h
  exact hc

/-- `skipToToken` passes over blanks, line breaks and comments. -/
theorem skips_skipToToken (h : skipToToken fuel s = .ok s') : s.Skips s' := by
  induction fuel generalizing s with
  | zero =>
    cases h
    exact .refl _
  | succ fuel ih =>
    -- each kind of blank is passed over, and the rest is left to the induction
    simp only [skipToToken] at h
    split at h
    · cases h
      exact .refl _
    · split at h
      · obtain ⟨skipped, hskipped, hrest⟩ := exists_of_bind_ok h
        split at hrest
        · exact (Skips.of_reads (reads_skipToLineEnd hskipped) _).trans (ih hrest)
        · simp at hrest
      · split at h
        · exact (Skips.of_reads (reads_passBlanks _ 1) _).trans (ih h)
        · split at h
          · exact (Skips.of_reads (reads_passBreak _) _).trans (ih h)
          · split at h
            · exact (Skips.of_reads (reads_passLine _) _).trans (ih h)
            · cases h
              exact .refl _

/-- `passBreak` passes over a line break that is there. -/
private theorem index_lt_passBreak {ch : Char} {rest : List Char} (hrest : c.rest = ch :: rest)
    (hch : isBreak ch = true) : c.mark.index < c.passBreak.mark.index := by
  unfold passBreak
  split
  · exact Nat.lt_add_of_pos_right Nat.two_pos
  · next heq =>
    rw [hrest] at heq
    cases heq
    rw [if_pos hch]
    exact Nat.lt_succ_self _
  · next heq =>
    rw [hrest] at heq
    cases heq

/-- `skipToLineEnd` passes over a tab that is there. -/
private theorem index_lt_skipToLineEnd {rest : List Char} {skipped : Skipped}
    (hrest : c.rest = '\t' :: rest) (h : c.skipToLineEnd true = .ok skipped) :
    c.mark.index < skipped.cursor.mark.index := by
  simp only [skipToLineEnd] at h
  -- the tab is the first of the blanks
  have hblanks : 0 < (c.rest.takeWhile fun ch => ch == ' ' || (true && ch == '\t')).length := by
    rw [hrest]
    exact Nat.succ_pos _
  have hlt : c.mark.index < (c.passBlanks
      (c.rest.takeWhile fun ch => ch == ' ' || (true && ch == '\t')).length).mark.index :=
    Nat.lt_add_of_pos_right hblanks
  split at h
  · split at h
    · cases h
      exact Nat.lt_of_lt_of_le hlt (reads_passLine _).index_le
    · simp at h
  · cases h
    exact hlt

/-- `skipToToken` passes over a blank at the cursor. -/
private theorem index_lt_skipToToken (h : skipToToken (fuel + 1) s = .ok s')
    (hrest : s.cursor.rest ≠ []) (hblank : endsWord s.cursor.rest = true) :
    s.mark.index < s'.mark.index := by
  -- once a blank is passed, the rest does not go back
  have hgo {c allowed} (h : skipToToken fuel { s with cursor := c, keyAllowed := allowed } = .ok s')
      (hc : s.mark.index < c.mark.index) : s.mark.index < s'.mark.index :=
    Nat.lt_of_lt_of_le hc (skips_skipToToken h).reads.index_le
  simp only [skipToToken] at h
  split at h
  · next heq => exact absurd heq hrest
  · next ch rest heq =>
    rw [heq] at hblank
    split at h
    · next htab =>
      simp only [Bool.and_eq_true, beq_iff_eq] at htab
      obtain ⟨skipped, hskipped, hrest⟩ := exists_of_bind_ok h
      split at hrest
      · exact hgo hrest (index_lt_skipToLineEnd (htab.1.1.1 ▸ heq) hskipped)
      · simp at hrest
    · split at h
      · exact hgo h (Nat.lt_succ_self _)
      · next hwhite =>
        -- a blank that is not white ends a line
        have hbreak : isBreak ch = true := by simpa [endsWord, hwhite] using hblank
        rw [if_pos hbreak] at h
        exact hgo h (index_lt_passBreak heq hbreak)

/-- `skip` leads to where the next token may start. -/
theorem Resting.skip (h : s.Resting cs) (hs : s.skip = .ok s') : s'.Ready cs := by
  obtain ⟨m, hm, hle⟩ := h
  obtain ⟨c, allowed, rfl, hc⟩ := skips_skipToToken hs
  -- if the index is one ahead, then a blank is at the cursor
  have hraise : m ≤ c.mark.index := by
    obtain hle | ⟨rfl, hrest, hblank⟩ := hle
    · exact Nat.le_trans hle hc.index_le
    · exact index_lt_skipToToken hs hrest hblank
  exact (ReadBefore.reads hm hc).raise hraise

/-- `skipToToken` ends at a character or at the end of the text, for its fuel is enough to read all
blanks, comments and line breaks. -/
private theorem endsWord_skipToToken (h : skipToToken fuel s = .ok s')
    (hfuel : s.cursor.rest.length < fuel) :
    s'.cursor.rest = [] ∨ endsWord s'.cursor.rest = false := by
  induction fuel generalizing s with
  | zero => omega
  | succ fuel ih =>
    simp only [skipToToken] at h
    split at h
    · next heq =>
      cases h
      exact .inl heq
    · next ch rest heq =>
      -- every step passes over at least one character
      have hgo {c : Cursor} {allowed : Bool}
          (h : skipToToken fuel { s with cursor := c, keyAllowed := allowed } = .ok s')
          (hreads : s.cursor.Reads c) (hlt : s.cursor.mark.index < c.mark.index) :
          s'.cursor.rest = [] ∨ endsWord s'.cursor.rest = false := by
        have hpos : 0 < s.cursor.rest.length := heq ▸ Nat.succ_pos _
        have hlength := hreads.length_eq
        refine ih h ?_
        show c.rest.length < fuel
        omega
      split at h
      · next htab =>
        simp only [Bool.and_eq_true, beq_iff_eq] at htab
        obtain ⟨skipped, hskipped, h⟩ := exists_of_bind_ok h
        split at h
        · exact hgo h (reads_skipToLineEnd hskipped)
            (index_lt_skipToLineEnd (htab.1.1.1 ▸ heq) hskipped)
        · simp at h
      · split at h
        · exact hgo h (reads_passBlanks _ 1) (Nat.lt_succ_self _)
        · next hwhite =>
          split at h
          · next hbreak => exact hgo h (reads_passBreak _) (index_lt_passBreak heq hbreak)
          · next hbreak =>
            split at h
            · next hcomment =>
              -- the mark of a comment belongs to its line
              have hmark : ch = '#' := eq_of_beq hcomment
              refine hgo h (reads_passLine _) ?_
              simp [passLine, passWhile, passBlanks, heq, hmark, isBreak]
            · cases h
              right
              rw [heq, endsWord]
              simp [hwhite, hbreak]

/-- `skip` ends at the end of the text or at a character that is no blank. -/
theorem endsWord_skip (h : s.skip = .ok s') :
    s'.cursor.rest = [] ∨ endsWord s'.cursor.rest = false :=
  endsWord_skipToToken h (Nat.lt_succ_self _)

/-- `skipWhitespace` passes over blanks, line breaks and comments too. -/
theorem skips_skipWhitespace {found : Bool} (h : skipWhitespace fuel found s = .ok s') :
    s.Skips s' := by
  induction fuel generalizing s found with
  | zero =>
    cases h
    exact .refl _
  | succ fuel ih =>
    -- in front of anything else the function stays, and fails if it has found no blank yet
    have hstay {found : Bool}
        (h : (if found then .ok s else fail s.mark .missingWhitespace) = .ok s') :
        s.Skips s' := by
      cases found with
      | true =>
        cases h
        exact .refl _
      | false => simp at h
    simp only [skipWhitespace] at h
    split at h
    · exact (Skips.of_reads (reads_passBlanks _ 1) _).trans (ih h)
    · exact (Skips.of_reads (reads_passLine _) _).trans (ih h)
    · split at h
      · exact (Skips.of_reads (reads_passBreak _) _).trans (ih h)
      · exact hstay h
    · exact hstay h

end Scanner

end PrimitiveDesk.Yaml
