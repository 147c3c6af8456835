import PrimitiveDesk.Proofs.Yaml.TokenOrder

/-!
# The scanner keeps the order of the text

Every way to read one token starts at a character, with all that was read in front of the cursor
(`Scanner.Stopped`), and ends where the next token may start behind the blanks (`Scanner.Resting`).
So the tokens of a text are in its order, up to its end or to a fault, and those with which a
mapping may start stand at characters (`TokenStream.inOrder_ofText`).

There is one lemma for each function that fetches a token. Most follow from the lemma about the
reader that is called. Two need an argument of their own: `fetchMarker`, behind which the next token
may start only after a blank, and `fetchValue`, which puts tokens in front of a key that was read
before.
-/

namespace PrimitiveDesk.Yaml

open Cursor

namespace Scanner

variable {cs : List Char} {s s' : Scanner} {m : Nat} {c : Cursor} {t : Token} {fuel : Nat}

/-- Giving up keys leaves the cursor at the character. -/
private theorem Stopped.drops (h : s.Stopped cs) (hs : s.Drops s') : s'.Stopped cs :=
  h.of_cursor_eq (Before.drops h.1 hs) hs.cursor_eq

private theorem Stopped.removeKey (h : s.Stopped cs) (hs : s.removeKey = .ok s') : s'.Stopped cs :=
  h.drops (drops_removeKey hs)

/-! ## Directives, markers and the end -/

private theorem Stopped.fetchDirective (h : s.Stopped cs) (hs : s.fetchDirective = .ok s') :
    s'.Resting cs := by
  simp only [Scanner.fetchDirective] at hs
  obtain ⟨s₁, hremove, hs⟩ := exists_of_bind_ok hs
  obtain ⟨⟨t, c⟩, hread, hs⟩ := exists_of_bind_ok hs
  cases hs
  exact ((h.unroll _).removeKey hremove).accept (Tag.readsToken_readDirective hread)

/-- Behind a document marker stands a blank, or the text ends. -/
private theorem endsWord_drop_of_startsMarker {rest : List Char} (h : startsMarker rest = true) :
    endsWord (rest.drop 3) = true := by
  rcases Bool.or_eq_true_iff.mp h with h | h
  · unfold startsDocument at h
    split at h
    · exact h
    · cases h
  · unfold endsDocument at h
    split at h
    · exact h
    · cases h

/-- The marker of a kind is at the cursor. -/
def AtMarker (s : Scanner) (kind : TokenKind) : Prop :=
  kind = .documentStart ∧ startsDocument s.cursor.rest = true ∨
    kind = .documentEnd ∧ endsDocument s.cursor.rest = true

/-- `fetchMarker` keeps the order: the marker is written where its token is, and the next token
starts behind the blank that follows it. -/
theorem Stopped.fetchMarker (h : s.Stopped cs) {kind : TokenKind} (hmarker : s.AtMarker kind)
    (hs : s.fetchMarker kind = .ok s') : s'.Resting cs := by
  simp only [Scanner.fetchMarker] at hs
  obtain ⟨s₁, hremove, hs⟩ := exists_of_bind_ok hs
  cases hs
  have h₁ := (h.unroll _).removeKey hremove
  have hcursor : s₁.cursor = s.cursor := (drops_removeKey hremove).cursor_eq.trans (by simp)
  rw [AtMarker, ← hcursor] at hmarker
  -- the marker is written where its token is
  have hwritten : (⟨⟨s₁.mark, (s₁.cursor.pass 3).mark⟩, kind⟩ : Token).IsWritten cs := by
    rw [h₁.1.rest_eq] at hmarker
    refine ⟨fun hkind => ?_, fun hkind => ?_, fun _ => rfl, fun _ => h₁.2⟩
    · exact hmarker.elim And.right fun hend => absurd (hkind.symm.trans hend.1) nofun
    · exact hmarker.elim (fun hstart => absurd (hkind.symm.trans hstart.1) nofun) And.right
  have hblank : endsWord (s₁.cursor.pass 3).rest = true :=
    endsWord_drop_of_startsMarker
      (Bool.or_eq_true_iff.mpr (hmarker.imp And.right And.right))
  have hle : s₁.mark.index ≤ s₁.mark.index + 3 := Nat.le_add_right _ _
  have hpass : { s₁ with cursor := s₁.cursor.pass 3 }.Before cs s₁.mark.index :=
    ReadBefore.reads h₁.1 (reads_pass _ 3)
  by_cases hrest : (s₁.cursor.pass 3).rest = []
  · -- the text ends with the marker
    have hlength : cs.length ≤ s₁.mark.index + 3 := by
      have hdrop : (cs.drop s₁.mark.index).drop 3 = [] := h₁.1.rest_eq ▸ hrest
      rw [List.drop_drop] at hdrop
      exact List.drop_eq_nil_iff.mp hdrop
    refine ⟨s₁.mark.index + 3, ?_, .inl (Nat.le_refl _)⟩
    exact hpass.push (Nat.le_refl _)
      ⟨hle, Nat.le_refl _, fun _ => .inr hlength⟩ hwritten
  · -- the next token starts behind the blank, so the index may already be there
    refine ⟨s₁.mark.index + 4, ?_, .inr ⟨rfl, hrest, hblank⟩⟩
    exact hpass.push (Nat.le_refl _)
      ⟨hle, Nat.le_succ _, fun _ => .inl (Nat.lt_succ_self _)⟩ hwritten

/-- `fetchDocumentEnd` keeps the order: behind the marker it only looks for a comment. -/
private theorem Stopped.fetchDocumentEnd (h : s.Stopped cs) (hmarker : s.AtMarker .documentEnd)
    (hs : s.fetchDocumentEnd = .ok s') : s'.Resting cs := by
  simp only [Scanner.fetchDocumentEnd] at hs
  obtain ⟨s₁, hfetch, hs⟩ := exists_of_bind_ok hs
  obtain ⟨skipped, hskipped, hs⟩ := exists_of_bind_ok hs
  split at hs
  · cases hs
    exact (h.fetchMarker hmarker hfetch).reads (reads_skipToLineEnd hskipped)
  · simp at hs

/-- `fetchStreamEnd` keeps the order. Its token is empty and stands at the cursor. -/
private theorem Ready.fetchStreamEnd (h : s.Ready cs) (hs : s.fetchStreamEnd = .ok s') :
    s'.Resting cs := by
  simp only [Scanner.fetchStreamEnd] at hs
  have hindex : (if s.mark.column == 0 then s.mark else ⟨s.mark.index, s.mark.line + 1, 0⟩).index =
      s.mark.index := by
    split <;> rfl
  generalize (if s.mark.column == 0 then s.mark else ⟨s.mark.index, s.mark.line + 1, 0⟩) = mark
    at hs hindex
  split at hs
  · simp at hs
  · obtain ⟨s₁, hremove, hs⟩ := exists_of_bind_ok hs
    cases hs
    -- the end may get a line of its own, with the same index
    have hgiveUp := ReadBefore.sublist h (sublist_giveUp s.keys fun _ => true)
    have h₀ : Ready { s with
        cursor := { s.cursor with mark := mark }
        keys := s.keys.map fun k => { k with possible := false } } cs := by
      show ReadBefore cs mark.index ⟨s.cursor.rest, mark, s.cursor.fresh⟩ _ _
      rw [hindex]
      exact { hgiveUp with rest_eq := hgiveUp.rest_eq.trans (by rw [hindex]; rfl) }
    have h₁ := (h₀.unroll _).drops (drops_removeKey hremove)
    have hmark : s₁.mark = mark :=
      congrArg Cursor.mark ((drops_removeKey hremove).cursor_eq.trans (cursor_unroll _ _))
    rw [Ready, hmark] at h₁
    exact (h₁.pushEmpty mark rfl Bool.noConfusion).resting
      (Nat.le_of_eq (congrArg Mark.index hmark.symm))

/-! ## Flow collections -/

/-- A bracket is one character, and what may follow it on its line is read too. -/
private theorem reads_bracket {skipped : Skipped}
    (h : (c.pass 1).skipToLineEnd true = .ok skipped) :
    c.Reads skipped.cursor :=
  (reads_pass c 1).trans (reads_skipToLineEnd h)

private theorem Stopped.rollOne (h : s.Stopped cs) : s.rollOne.Stopped cs :=
  h.of_cursor_eq (Before.rollOne h.1) (cursor_rollOne s)

private theorem Stopped.fetchFlowStart (h : s.Stopped cs) {kind : TokenKind}
    (hkind : kind.isMarker = false) (hs : s.fetchFlowStart kind = .ok s') : s'.Resting cs := by
  simp only [Scanner.fetchFlowStart] at hs
  split at hs
  · simp at hs
  · obtain ⟨skipped, hskipped, hs⟩ := exists_of_bind_ok hs
    cases hs
    exact h.saveKey.rollOne.accept ((reads_bracket hskipped).readsToken hkind)

/-- `endPair` puts at most an empty token at the cursor. -/
private theorem Stopped.endPair (h : s.Stopped cs) : s.endPair.Stopped cs := by
  unfold Scanner.endPair
  split
  · exact ⟨Before.pushEmpty s.mark h.1 rfl nofun, h.2⟩
  · exact h

/-- `leaveFlow` gives up the pending key of the collection that is left. -/
private theorem Stopped.leaveFlow (h : s.Stopped cs) (kind : TokenKind) :
    (s.leaveFlow kind).Stopped cs := by
  -- the key of the collection was the first one, unless no collection is open
  have hkeys : ((if s.flowLevel == 0 then s.keys else s.keys.drop 1).filter
      (·.possible)).Sublist s.pending := by
    split
    · exact .refl _
    · exact (List.drop_sublist 1 s.keys).filter _
  have hdrops : Stopped { s with
      keyAllowed := false
      flowLevel := s.flowLevel - 1
      keys := if s.flowLevel == 0 then s.keys else s.keys.drop 1 } cs :=
    h.drops ⟨rfl, rfl, hkeys⟩
  unfold Scanner.leaveFlow
  dsimp only
  split
  · exact hdrops.endPair
  · exact hdrops

private theorem Stopped.fetchFlowEnd (h : s.Stopped cs) {kind : TokenKind}
    (hkind : kind.isMarker = false) (hs : s.fetchFlowEnd kind = .ok s') : s'.Resting cs := by
  simp only [Scanner.fetchFlowEnd] at hs
  obtain ⟨s₁, hremove, hs⟩ := exists_of_bind_ok hs
  obtain ⟨skipped, hskipped, hs⟩ := exists_of_bind_ok hs
  cases hs
  exact ((h.removeKey hremove).leaveFlow kind).accept ((reads_bracket hskipped).readsToken hkind)

private theorem Stopped.fetchFlowEntry (h : s.Stopped cs) (hs : s.fetchFlowEntry = .ok s') :
    s'.Resting cs := by
  simp only [Scanner.fetchFlowEntry] at hs
  obtain ⟨s₁, hremove, hs⟩ := exists_of_bind_ok hs
  obtain ⟨skipped, hskipped, hs⟩ := exists_of_bind_ok hs
  cases hs
  have h₁ := h.removeKey hremove
  have h₂ : { s₁ with keyAllowed := true }.Stopped cs := h₁
  exact h₂.endPair.accept ((reads_bracket hskipped).readsToken rfl)

/-! ## Block entries and explicit keys -/

/-- `fetchBlockEntry` keeps the order: the start of the sequence is at the dash, and the entry
behind the blanks that follow it. -/
theorem Stopped.fetchBlockEntry (h : s.Stopped cs) (hs : s.fetchBlockEntry = .ok s') :
    s'.Resting cs := by
  simp only [Scanner.fetchBlockEntry] at hs
  obtain ⟨-, -, hs⟩ := exists_of_bind_ok hs
  have hpass : { s with cursor := s.cursor.pass 1 }.Before cs s.mark.index :=
    ReadBefore.reads h.1 (reads_pass _ 1)
  -- the sequence starts at the dash, which the cursor has passed by then
  have hroll := hpass.roll s.mark.column .blockSequenceStart rfl nofun
  have hcursor := cursor_roll { s with cursor := s.cursor.pass 1 } s.mark.column none
    .blockSequenceStart s.mark
  generalize { s with cursor := s.cursor.pass 1 }.roll s.mark.column none .blockSequenceStart s.mark
    = rolled at hs hroll hcursor
  obtain ⟨skipped, hskipped, hs⟩ := exists_of_bind_ok hs
  split at hs
  · simp at hs
  · obtain ⟨⟨c, tabs, spaces⟩, hskipped', hs⟩ := exists_of_bind_ok hs
    obtain ⟨s₁, hremove, hs⟩ := exists_of_bind_ok hs
    cases hs
    have hreads : rolled.cursor.Reads c :=
      (reads_skipToLineEnd hskipped).trans (reads_skipToLineEnd hskipped')
    have hle : s.mark.index ≤ c.mark.index :=
      Nat.le_trans (hcursor ▸ Nat.le_succ _) hreads.index_le
    have hmoved : { rolled with cursor := c }.Before cs c.mark.index :=
      (ReadBefore.reads hroll hreads).raise hle
    have hone (b : Bool) : (if b then { rolled with cursor := c }.rollOne
        else { rolled with cursor := c }).Before cs c.mark.index := by
      cases b with
      | true => exact hmoved.rollOne
      | false => exact hmoved
    have hcursor₁ : s₁.cursor = c := by
      rw [(drops_removeKey hremove).cursor_eq]
      split
      · exact cursor_rollOne _
      · rfl
    refine Before.resting (((hone _).drops (drops_removeKey hremove)).pushEmpty c.mark rfl nofun) ?_
    exact Nat.le_of_eq (congrArg (·.mark.index) hcursor₁.symm)

/-- `openExplicitKey` opens a mapping at the cursor, if one is to be opened. -/
private theorem Stopped.openExplicitKey (h : s.Stopped cs) (hs : s.openExplicitKey = .ok s') :
    s'.Stopped cs ∧ s'.cursor = s.cursor := by
  unfold Scanner.openExplicitKey at hs
  split at hs
  · split at hs
    · cases hs
      have hroll := Before.roll h.1 s.mark.column .blockMappingStart rfl fun _ => h.2
      exact ⟨h.of_cursor_eq hroll (cursor_roll _ _ _ _ _), cursor_roll _ _ _ _ _⟩
    · simp at hs
  · cases hs
    exact ⟨h, rfl⟩

private theorem Stopped.fetchKey (h : s.Stopped cs) (hs : s.fetchKey = .ok s') : s'.Resting cs := by
  simp only [Scanner.fetchKey] at hs
  obtain ⟨s₁, hopen, hs⟩ := exists_of_bind_ok hs
  obtain ⟨s₂, hremove, hs⟩ := exists_of_bind_ok hs
  obtain ⟨s₃, hskip, hs⟩ := exists_of_bind_ok hs
  split at hs
  · simp at hs
  · cases hs
    -- opening the mapping and giving up a key leave the cursor where it was
    obtain ⟨h₁, hcursor₁⟩ := h.openExplicitKey hopen
    have h₂ := h₁.removeKey hremove
    have hcursor₂ := (drops_removeKey hremove).cursor_eq
    obtain ⟨c, allowed, rfl, hc⟩ := skips_skipWhitespace hskip
    have hreads : s₂.cursor.Reads c := (reads_pass _ 1).trans hc
    have hmark : s.mark = s₂.mark := by
      unfold mark
      rw [hcursor₂, hcursor₁]
    rw [hmark]
    exact h₂.accept (hreads.readsToken rfl)

/-! ## Anchors, tags and scalars -/

private theorem Stopped.fetchAnchor (h : s.Stopped cs) {isAlias : Bool}
    (hs : s.fetchAnchor isAlias = .ok s') :
    s'.Resting cs := by
  simp only [Scanner.fetchAnchor] at hs
  obtain ⟨⟨t, c⟩, hread, hs⟩ := exists_of_bind_ok hs
  cases hs
  exact h.saveKey.accept (Tag.readsToken_readAnchor hread)

private theorem Stopped.fetchTag (h : s.Stopped cs) (hs : s.fetchTag = .ok s') : s'.Resting cs := by
  simp only [Scanner.fetchTag] at hs
  obtain ⟨⟨t, c⟩, hread, hs⟩ := exists_of_bind_ok hs
  cases hs
  exact h.saveKey.accept (Tag.readsToken_readTag hread)

private theorem Stopped.fetchBlockScalar (h : s.Stopped cs) {literal : Bool}
    (hs : s.fetchBlockScalar literal = .ok s') : s'.Resting cs := by
  simp only [Scanner.fetchBlockScalar] at hs
  obtain ⟨⟨t, c⟩, hread, hs⟩ := exists_of_bind_ok hs
  cases hs
  exact h.saveKey.accept (Block.readsToken_read hread)

private theorem Stopped.fetchPlain (h : s.Stopped cs) (hs : s.fetchPlain = .ok s') :
    s'.Resting cs := by
  simp only [Scanner.fetchPlain] at hs
  obtain ⟨⟨t, c⟩, hread, hs⟩ := exists_of_bind_ok hs
  cases hs
  exact h.saveKey.accept (Plain.readsToken_read hread)

private theorem Stopped.fetchQuoted (h : s.Stopped cs) {single : Bool}
    (hs : s.fetchQuoted single = .ok s') :
    s'.Resting cs := by
  simp only [Scanner.fetchQuoted] at hs
  obtain ⟨⟨t, c⟩, hread, hs⟩ := exists_of_bind_ok hs
  obtain ⟨s₁, hskip, hs⟩ := exists_of_bind_ok hs
  cases hs
  obtain ⟨c', allowed, rfl, hc⟩ := skips_skipToToken hskip
  exact h.saveKey.accept ((Quoted.readsToken_read hread).trans hc)

/-! ## Values -/

/-- `passColon` reads the colon, and blanks behind it. -/
private theorem reads_passColon {c' : Cursor} (h : passColon c = .ok c') : c.Reads c' := by
  simp only [passColon] at h
  split at h
  · obtain ⟨skipped, hskipped, h⟩ := exists_of_bind_ok h
    split at h
    · simp at h
    · cases h
      exact reads_bracket hskipped
  · cases h
    exact reads_pass c 1

/-- `openKey` puts the tokens of a key where the key started. -/
private theorem Before.openKey (h : s.Before cs m) {k : PendingKey} {ks : List PendingKey}
    (hkeys : s.keys = k :: ks) (hk : k.possible = true) {pair : Bool} {start : Mark}
    (hs : s.openKey k pair start = .ok s') : s'.Before cs m ∧ s'.cursor = s.cursor := by
  have hpending {r : Scanner} (hr : r.keys = s.keys) : r.pending = k :: ks.filter (·.possible) := by
    rw [pending, hr, hkeys, List.filter_cons_of_pos hk]
  unfold Scanner.openKey at hs
  split at hs
  · simp at hs
  · cases hs
    -- each token goes in front of the last one put there: first the key, then what opens around it
    have hkey := h.insertAt (hpending rfl) .key rfl
    dsimp only
    generalize hopened : (if pair then (s.insertAt k.tokenNumber (.empty k.mark) .key).insertAt
      k.tokenNumber (.empty k.mark) .flowMappingStart else
      s.insertAt k.tokenNumber (.empty k.mark) .key) = opened
    have h₁ : opened.Before cs m ∧ opened.cursor = s.cursor ∧ opened.keys = s.keys := by
      subst hopened
      cases pair with
      | true => exact ⟨hkey.insertAt (hpending rfl) _ rfl, rfl, rfl⟩
      | false => exact ⟨hkey, rfl, rfl⟩
    obtain ⟨h₁, hcursor, hkeys₁⟩ := h₁
    have hroll := (h₁.rollAt k.mark.column (hpending hkeys₁) .blockMappingStart rfl).rollOne
    refine ⟨ReadBefore.sublist hroll ?_, by simp [hcursor]⟩
    unfold pending
    simp only [keys_rollOne, keys_roll, hkeys₁, hkeys]
    exact (List.sublist_cons_self k ks).filter _

/-- `openValue` opens a mapping for a value without a key, at the colon. -/
private theorem Before.openValue {start : Mark} (h : s.Before cs start.index)
    (hcontent : endsWord (cs.drop start.index) = false) {pair : Bool}
    (hs : s.openValue pair start = .ok s') : s'.Before cs start.index ∧ s'.cursor = s.cursor := by
  unfold Scanner.openValue at hs
  dsimp only at hs
  generalize hopened : (if pair then s.push (.empty start) .flowMappingStart else s) = opened at hs
  -- in a flow collection a pair is opened first
  have h₁ : opened.Before cs start.index ∧ opened.cursor = s.cursor := by
    subst hopened
    cases pair with
    | true => exact ⟨h.pushEmpty start rfl fun _ => hcontent, rfl⟩
    | false => exact ⟨h, rfl⟩
  split at hs
  · simp at hs
  · cases hs
    exact ⟨(h₁.1.roll start.column _ rfl fun _ => hcontent).rollOne, by simp [h₁.2]⟩

/-- `fetchValue` keeps the order: what it opens stands at the pending key or at the colon, and its
own token at the colon. -/
theorem Stopped.fetchValue (h : s.Stopped cs) (hs : s.fetchValue = .ok s') : s'.Resting cs := by
  simp only [Scanner.fetchValue] at hs
  generalize hinside : (if (!s.pairs.isEmpty && !s.flowMappingStarted) then
    { s with pairs := .inside :: s.pairs.drop 1 } else s) = inside at hs
  -- that the pair goes on inside changes no token and no key
  have h₁ : inside.Stopped cs ∧ inside.mark = s.mark ∧ inside.keys = s.keys := by
    subst hinside
    split
    · exact ⟨h, rfl, rfl⟩
    · exact ⟨h, rfl, rfl⟩
  obtain ⟨h₁, hmark, hkeys⟩ := h₁
  rw [← hmark] at hs
  obtain ⟨c, hcolon, hs⟩ := exists_of_bind_ok hs
  have hreads := reads_passColon hcolon
  have h₂ : { inside with cursor := c }.Before cs inside.mark.index :=
    ReadBefore.reads h₁.1 hreads
  -- the token of the value stands in front of the cursor, where the colon was
  have hvalue {r : Scanner} (hr : r.Before cs inside.mark.index ∧ r.cursor = c) :
      (r.push (.empty inside.mark) .value).Resting cs := by
    refine Before.resting (hr.1.pushEmpty inside.mark rfl nofun) ?_
    exact Nat.le_trans hreads.index_le (Nat.le_of_eq (congrArg (·.mark.index) hr.2.symm))
  split at hs
  · -- there is a pending key: what opens goes in front of it
    next hpossible =>
    obtain ⟨s₁, hopen, hs⟩ := exists_of_bind_ok hs
    cases hs
    cases hlist : s.keys with
    | nil =>
      rw [hlist] at hpossible
      cases hpossible
    | cons k ks =>
      rw [hlist] at hopen hpossible
      exact hvalue (h₂.openKey (hkeys.trans hlist) hpossible hopen)
  · -- there is none: the mapping starts with its colon
    obtain ⟨s₁, hopen, hs⟩ := exists_of_bind_ok hs
    cases hs
    exact hvalue (h₂.openValue h₁.2 hopen)

private theorem Stopped.fetchFlowValue (h : s.Stopped cs) (hs : s.fetchFlowValue = .ok s') :
    s'.Resting cs := by
  unfold Scanner.fetchFlowValue at hs
  split at hs
  · split at hs
    · simp at hs
    · exact h.fetchValue hs
  · exact h.fetchValue hs

/-! ## All tokens -/

/-- `fetchContent` keeps the order, whichever character decides what is fetched. -/
theorem Stopped.fetchContent (h : s.Stopped cs) (hs : s.fetchContent = .ok s') : s'.Resting cs := by
  simp only [Scanner.fetchContent] at hs
  -- the cases are those of the character by which `fetchContent` decides, first the end of the text
  split at hs
  · exact h.1.fetchStreamEnd hs
  · split at hs
    · exact h.fetchFlowStart rfl hs
    · exact h.fetchFlowStart rfl hs
    · exact h.fetchFlowEnd rfl hs
    · exact h.fetchFlowEnd rfl hs
    · exact h.fetchFlowEntry hs
    · exact h.fetchAnchor hs
    · exact h.fetchAnchor hs
    · exact h.fetchTag hs
    · exact h.fetchQuoted hs
    · exact h.fetchQuoted hs
    · split at hs
      · exact h.fetchBlockEntry hs
      · exact h.fetchPlain hs
    · split at hs
      · exact h.fetchKey hs
      · exact h.fetchPlain hs
    · split at hs
      · exact h.fetchValue hs
      · split at hs
        · exact h.fetchFlowValue hs
        · exact h.fetchPlain hs
    · split at hs
      · exact h.fetchPlain hs
      · exact h.fetchBlockScalar hs
    · split at hs
      · exact h.fetchPlain hs
      · exact h.fetchBlockScalar hs
    · simp at hs
    · simp at hs
    · simp at hs
    · exact h.fetchPlain hs

/-- `fetch` keeps the order: it skips to the next token, drops stale keys and reads one token. -/
theorem Resting.fetch (h : s.Resting cs) (hs : s.fetch = .ok s') : s'.Resting cs := by
  simp only [Scanner.fetch] at hs
  obtain ⟨s₁, hskip, hs⟩ := exists_of_bind_ok hs
  obtain ⟨s₂, hstale, hs⟩ := exists_of_bind_ok hs
  have hdrops := drops_dropStaleKeys hstale
  have h₃ := ((h.skip hskip).drops hdrops).unroll s₂.cursor.column
  -- the cursor is behind the blanks, so at the end or at a character
  have hstop : (s₂.unroll s₂.cursor.column).cursor.rest = [] ∨
      endsWord (s₂.unroll s₂.cursor.column).cursor.rest = false := by
    rw [cursor_unroll, hdrops.cursor_eq]
    exact endsWord_skip hskip
  generalize s₂.unroll s₂.cursor.column = s₃ at hs h₃ hstop
  split at hs
  · exact h₃.fetchStreamEnd hs
  · next hnonempty =>
    have hcontent := hstop.resolve_left fun hempty => hnonempty (by rw [hempty]; rfl)
    have hhere : s₃.Stopped cs := ⟨h₃, h₃.rest_eq ▸ hcontent⟩
    split at hs
    · exact hhere.fetchDirective hs
    · split at hs
      · next hmarker =>
        exact hhere.fetchMarker (.inl ⟨rfl, (Bool.and_eq_true_iff.mp hmarker).2⟩) hs
      · split at hs
        · next hmarker =>
          exact hhere.fetchDocumentEnd (.inr ⟨rfl, (Bool.and_eq_true_iff.mp hmarker).2⟩) hs
        · split at hs
          · simp at hs
          · exact hhere.fetchContent hs

/-- At the start there is only the token of the stream itself. -/
theorem resting_ofText (text : String) :
    (Scanner.ofText text).Resting (text.toList.takeWhile (· != '\x00')) := by
  refine Before.resting (m := 0) ⟨rfl, ?_, ?_, ?_, ?_, ?_⟩ (Nat.le_refl 0)
  · -- one token, no pending keys
    exact List.pairwise_singleton _ _
  · exact fun t ht => List.mem_singleton.mp ht ▸
      Token.precedes_of_not_marker rfl (Nat.le_refl _) (Nat.le_refl _)
  · exact fun t ht => List.mem_singleton.mp ht ▸ Token.isWritten_of_not_marker rfl nofun
  · exact fun k hk => absurd hk List.not_mem_nil
  · exact .nil

private theorem Resting.inOrder (h : s.Resting cs) : InOrder cs s.tokens.toList := by
  obtain ⟨m, hm, -⟩ := h
  exact ReadBefore.inOrder hm

/-- The tokens of `run` are in order, up to the end or to a fault. -/
private theorem inOrder_run (h : s.Resting cs) : InOrder cs (run fuel s).tokens := by
  -- at a fault, only tokens in front of the first pending key are given out
  have hreleased {s : Scanner} (h : s.Resting cs) : InOrder cs s.released :=
    h.inOrder.sublist (List.take_sublist _ _)
  induction fuel generalizing s with
  | zero => exact hreleased h
  | succ fuel ih =>
    simp only [run]
    split
    · exact hreleased h
    · next t hfetch =>
      obtain ⟨s₁, hfetch, hstale⟩ := exists_of_bind_ok hfetch
      have h₁ : t.Resting cs := Resting.drops (h.fetch hfetch) (drops_dropStaleKeys hstale)
      split
      · exact h₁.inOrder
      · exact ih h₁

end Scanner

/-- The tokens of a text are in its order. -/
theorem TokenStream.inOrder_ofText (text : String) :
    InOrder (text.toList.takeWhile (· != '\x00')) (TokenStream.ofText text).tokens :=
  Scanner.inOrder_run (Scanner.resting_ofText text)

end PrimitiveDesk.Yaml
