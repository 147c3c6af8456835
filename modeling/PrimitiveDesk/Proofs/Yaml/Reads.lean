import PrimitiveDesk.Yaml.Token.Block
import PrimitiveDesk.Yaml.Token.Plain
import PrimitiveDesk.Yaml.Token.Quoted
import PrimitiveDesk.Yaml.Token.Tag

/-!
# Reading goes forward

Every reader of a part of a YAML text leaves the cursor further on in the same text
(`Cursor.Reads`): what is unread afterwards is what was unread before without its first characters,
and the mark counts them. A reader that gives a token gives one that lies between the two cursors
(`Cursor.ReadsToken`).

There is one lemma for each reader, in the order in which the readers call each other.
-/

namespace PrimitiveDesk.Yaml

/-- Whether a token marks the start or the end of a document. -/
def TokenKind.isMarker : TokenKind → Bool
  | documentStart => true
  | documentEnd => true
  | _ => false

/-- Whether a mapping may start with a token: one that is written there, or one that an alias
repeats. -/
def TokenKind.bringsMapping : TokenKind → Bool
  | .blockMappingStart => true
  | .flowMappingStart => true
  | .key => true
  | .alias _ => true
  | _ => false

namespace Cursor

/-- The second cursor is further on in the text than the first. -/
def Reads (c c' : Cursor) : Prop :=
  ∃ n, c'.rest = c.rest.drop n ∧ c'.mark.index = c.mark.index + n

variable {c c' c'' : Cursor}

theorem Reads.refl (c : Cursor) : c.Reads c := ⟨0, rfl, rfl⟩

theorem Reads.trans (h : c.Reads c') (h' : c'.Reads c'') : c.Reads c'' := by
  obtain ⟨n, hrest, hindex⟩ := h
  obtain ⟨m, hrest', hindex'⟩ := h'
  exact ⟨n + m, by rw [hrest', hrest, List.drop_drop], by omega⟩

theorem Reads.index_le (h : c.Reads c') : c.mark.index ≤ c'.mark.index := by
  obtain ⟨n, -, hindex⟩ := h
  omega

/-- A token lies between two cursors, and marks no document. A mapping may start with it only if it
starts at the first cursor itself. -/
structure ReadsToken (c : Cursor) (t : Token) (c' : Cursor) : Prop where
  reads : c.Reads c'
  le_start : c.mark.index ≤ t.extent.start.index
  start_le_stop : t.extent.start.index ≤ t.extent.stop.index
  stop_le : t.extent.stop.index ≤ c'.mark.index
  notMarker : t.kind.isMarker = false
  start_eq : t.kind.bringsMapping = true → t.extent.start = c.mark

/-- A token reaches from a mark to where the reading ends. -/
structure ReadsFrom (start : Mark) (c : Cursor) (t : Token) (c' : Cursor) : Prop where
  reads : c.Reads c'
  extent : t.extent = ⟨start, c'.mark⟩
  notMarker : t.kind.isMarker = false

/-- A token that starts at the first cursor lies between it and the last one. -/
theorem ReadsFrom.readsToken {t : Token} (h : ReadsFrom c.mark c' t c'') (hc : c.Reads c') :
    c.ReadsToken t c'' := by
  have hle := (hc.trans h.reads).index_le
  refine ⟨hc.trans h.reads, ?_, ?_, ?_, h.notMarker, fun _ => congrArg (·.start) h.extent⟩
  · exact Nat.le_of_eq (congrArg (·.start.index) h.extent).symm
  · rw [h.extent]
    exact hle
  · exact Nat.le_of_eq (congrArg (·.stop.index) h.extent)

/-- A token may reach from the one cursor to the other. -/
theorem Reads.readsToken (h : c.Reads c') {kind : TokenKind} (hkind : kind.isMarker = false) :
    c.ReadsToken ⟨⟨c.mark, c'.mark⟩, kind⟩ c' :=
  ReadsFrom.readsToken ⟨h, rfl, hkind⟩ (.refl c)

/-- What is read behind a token does not belong to it. -/
theorem ReadsToken.trans {t : Token} (h : c.ReadsToken t c') (h' : c'.Reads c'') :
    c.ReadsToken t c'' :=
  { h with
    reads := h.reads.trans h'
    stop_le := Nat.le_trans h.stop_le h'.index_le }

/-! ## Single steps -/

theorem reads_passBlanks (c : Cursor) (n : Nat) : c.Reads (c.passBlanks n) := ⟨n, rfl, rfl⟩

theorem reads_pass (c : Cursor) (n : Nat) : c.Reads (c.pass n) := ⟨n, rfl, rfl⟩

private theorem reads_passLineEnd (c : Cursor) : c.Reads c.passLineEnd := ⟨1, rfl, rfl⟩

/-- `passBreak` reads a line break of one or two characters, or nothing. -/
theorem reads_passBreak (c : Cursor) : c.Reads c.passBreak := by
  unfold passBreak
  split
  · exact (reads_passBlanks c 1).trans (reads_passLineEnd _)
  · split
    · exact reads_passLineEnd c
    · exact .refl c
  · exact .refl c

private theorem reads_passWhile (c : Cursor) (p : Char → Bool) : c.Reads (c.passWhile p) :=
  reads_passBlanks c _

theorem reads_passLine (c : Cursor) : c.Reads c.passLine := reads_passWhile c _

/-- A reader that has failed gives no result. -/
@[simp] theorem fail_eq_ok {α : Type} {m : Mark} {f : Fault} {a : α} : fail m f = .ok a ↔ False :=
  ⟨nofun, False.elim⟩

/-- `skipToLineEnd` reads blanks, and a comment behind them. -/
theorem reads_skipToLineEnd {allowTabs : Bool} {s : Skipped}
    (h : c.skipToLineEnd allowTabs = .ok s) : c.Reads s.cursor := by
  have hblanks := reads_passBlanks c
    (c.rest.takeWhile fun ch => ch == ' ' || (allowTabs && ch == '\t')).length
  simp only [skipToLineEnd] at h
  split at h
  · split at h
    · cases h
      exact hblanks.trans (reads_passLine _)
    · simp at h
  · cases h
    exact hblanks

end Cursor

open Cursor

/-- A computation that succeeds has succeeded in its first part. -/
theorem exists_of_bind_ok {α β : Type} {x : Except ScanError α} {f : α → Except ScanError β} {b : β}
    (h : (x >>= f) = .ok b) : ∃ a, x = .ok a ∧ f a = .ok b := by
  cases x with
  | error e => cases h
  | ok a => exact ⟨a, rfl, h⟩

/-! ## Tags, anchors and directives -/

namespace Tag

variable {c c' : Cursor} {start : Mark}

/-- `readByte?` reads an escaped byte, which is three characters. -/
private theorem reads_readByte? {n : Nat} (h : readByte? c = some (n, c')) : c.Reads c' := by
  unfold readByte? at h
  split at h
  · obtain ⟨_, -, heq⟩ := Option.map_eq_some_iff.mp h
    cases heq
    exact reads_pass c 3
  · cases h

/-- `readTrailing` reads the escaped bytes behind the first one of a character. -/
private theorem reads_readTrailing {n code code' : Nat}
    (h : readTrailing start n code c = .ok (code', c')) : c.Reads c' := by
  induction n generalizing code c with
  | zero =>
    cases h
    exact .refl _
  | succ n ih =>
    unfold readTrailing at h
    -- a byte is read, and then the others
    split at h
    · simp at h
    · next hbyte =>
      split at h
      · exact (reads_readByte? hbyte).trans (ih h)
      · simp at h

/-- `readUriEscape` reads the escaped bytes of a character. -/
private theorem reads_readUriEscape {ch : Char} (h : readUriEscape start c = .ok (ch, c')) :
    c.Reads c' := by
  unfold readUriEscape at h
  split at h
  · simp at h
  · next hbyte =>
    split at h
    · simp at h
    · obtain ⟨⟨code, c₁⟩, htrailing, hrest⟩ := exists_of_bind_ok h
      dsimp only at hrest
      split at hrest
      · cases hrest
        exact (reads_readByte? hbyte).trans (reads_readTrailing htrailing)
      · simp at hrest

/-- `readUri` reads characters and escapes. The induction is on its fuel. -/
private theorem reads_readUri {p : Char → Bool} {fuel : Nat} {acc acc' : List Char}
    (h : readUri start p fuel acc c = .ok (acc', c')) : c.Reads c' := by
  induction fuel generalizing acc c with
  | zero =>
    cases h
    exact .refl _
  | succ fuel ih =>
    unfold readUri at h
    split at h
    · cases h
      exact .refl _
    · split at h
      · split at h
        · obtain ⟨⟨e, c₁⟩, hescape, hrest⟩ := exists_of_bind_ok h
          exact (reads_readUriEscape hescape).trans (ih hrest)
        · exact (reads_pass c 1).trans (ih h)
      · cases h
        exact .refl _

/-- `readHandle` reads a tag handle with its last mark, if there is one. -/
private theorem reads_readHandle {directive : Bool} {handle : List Char}
    (h : readHandle directive start c = .ok (handle, c')) : c.Reads c' := by
  have hname := (reads_pass c 1).trans
    (reads_passBlanks (c.pass 1) ((c.pass 1).rest.takeWhile isWord).length)
  simp only [readHandle] at h
  split at h
  · -- the handle is closed, is the empty one, or belongs to a tag
    split at h
    · cases h
      exact hname.trans (reads_pass _ 1)
    · split at h
      · simp at h
      · cases h
        exact hname
  · simp at h

/-- `readHead` reads what a tag handle stands for. -/
private theorem reads_readHead {head : List Char} (h : readHead start c = .ok (head, c')) :
    c.Reads c' := by
  unfold readHead at h
  split at h
  · exact (reads_pass c 1).trans (reads_readUri h)
  · obtain ⟨⟨e, c₁⟩, hescape, hrest⟩ := exists_of_bind_ok h
    exact (reads_readUriEscape hescape).trans (reads_readUri hrest)
  · split at h
    · exact (reads_pass c 1).trans (reads_readUri h)
    · simp at h
  · simp at h

private theorem reads_readVersion (h : readVersion start c = .ok c') : c.Reads c' := by
  simp only [readVersion] at h
  split at h
  · simp at h
  · split at h
    · simp at h
    · cases h
      exact reads_pass c _

/-- The token of `readVersionDirective` ends behind the two numbers. -/
private theorem readsFrom_readVersionDirective {t : Token}
    (h : readVersionDirective start c = .ok (t, c')) : ReadsFrom start c t c' := by
  obtain ⟨c₁, hmajor, hrest⟩ := exists_of_bind_ok h
  split at hrest
  · obtain ⟨c₂, hminor, hend⟩ := exists_of_bind_ok hrest
    cases hend
    have hreads := (reads_passWhile c _).trans (reads_readVersion hmajor)
    exact ⟨hreads.trans ((reads_pass _ 1).trans (reads_readVersion hminor)), rfl, rfl⟩
  · simp at hrest

/-- The token of `readTagDirective` ends behind what the handle stands for. -/
private theorem readsFrom_readTagDirective {t : Token}
    (h : readTagDirective start c = .ok (t, c')) :
    ReadsFrom start c t c' := by
  obtain ⟨⟨handle, c₁⟩, hhandle, hrest⟩ := exists_of_bind_ok h
  obtain ⟨⟨head, c₂⟩, hhead, hend⟩ := exists_of_bind_ok hrest
  dsimp only at hend
  split at hend
  · cases hend
    have hreads := (reads_passWhile c _).trans (reads_readHandle hhandle)
    exact ⟨hreads.trans ((reads_passWhile _ _).trans (reads_readHead hhead)), rfl, rfl⟩
  · simp at hend

/-- `readDirective` reads a directive with its line break, which is not part of the token. -/
theorem readsToken_readDirective {t : Token} (h : readDirective c = .ok (t, c')) :
    c.ReadsToken t c' := by
  have hname := (reads_pass c 1).trans
    (reads_passBlanks (c.pass 1) ((c.pass 1).rest.takeWhile isWord).length)
  -- whatever the directive is, its line has to end behind it
  have hline {r : Except ScanError (Token × Cursor)} {c₀ : Cursor} (hc₀ : c.Reads c₀)
      (hr : ∀ {t c₁}, r = .ok (t, c₁) → ReadsFrom c.mark c₀ t c₁)
      (h : (do
        let x ← r
        let skipped ← x.2.skipToLineEnd true
        if endsLine skipped.cursor.rest then pure (x.1, skipped.cursor.passBreak)
        else fail c.mark .directiveLineEnd) = .ok (t, c')) : c.ReadsToken t c' := by
    obtain ⟨⟨t₁, c₁⟩, hparameters, hrest⟩ := exists_of_bind_ok h
    obtain ⟨skipped, hskipped, hend⟩ := exists_of_bind_ok hrest
    split at hend
    · cases hend
      exact ((hr hparameters).readsToken hc₀).trans
        ((reads_skipToLineEnd hskipped).trans (reads_passBreak _))
    · simp at hend
  simp only [readDirective] at h
  split at h
  · simp at h
  · split at h
    · simp at h
    · split at h
      · exact hline hname readsFrom_readVersionDirective h
      · split at h
        · exact hline hname readsFrom_readTagDirective h
        · refine hline (hname.trans (reads_passLine _)) (fun heq => ?_) h
          cases heq
          exact ⟨.refl _, rfl, rfl⟩

/-- `readSuffix` reads the rest of a tag behind its handle. -/
private theorem reads_readSuffix {head suffix : List Char}
    (h : readSuffix start head c = .ok (suffix, c')) : c.Reads c' := by
  obtain ⟨⟨acc, c₁⟩, huri, hrest⟩ := exists_of_bind_ok h
  dsimp only at hrest
  split at hrest
  · simp at hrest
  · cases hrest
    exact reads_readUri huri

/-- `readTag` reads a tag, in whichever of its three forms it is written. -/
theorem readsToken_readTag {flow : Bool} {t : Token} (h : readTag flow c = .ok (t, c')) :
    c.ReadsToken t c' := by
  -- whatever form the tag has, it must be followed by the end of a word
  have hend {r : Except ScanError (List Char × List Char × Cursor)}
      (hr : ∀ {handle suffix c₁}, r = .ok (handle, suffix, c₁) → c.Reads c₁)
      (h : (do
        let x ← r
        if endsWord x.2.2.rest || (flow && startsFlow x.2.2.rest) then
          pure ((⟨⟨c.mark, x.2.2.mark⟩, .tag (String.ofList x.1) (String.ofList x.2.1)⟩ : Token),
            x.2.2)
        else fail c.mark .tagEnd) = .ok (t, c')) : c.ReadsToken t c' := by
    obtain ⟨⟨handle, suffix, c₁⟩, hparts, hrest⟩ := exists_of_bind_ok h
    dsimp only at hrest
    split at hrest
    · cases hrest
      exact ReadsFrom.readsToken ⟨hr hparts, rfl, rfl⟩ (.refl c)
    · simp at hrest
  simp only [readTag] at h
  split at h
  · -- a tag in angle brackets
    obtain ⟨⟨acc, c₁⟩, huri, hrest⟩ := exists_of_bind_ok h
    have hreads := (reads_pass c 2).trans (reads_readUri huri)
    dsimp only at hrest
    split at hrest
    · refine hend (fun heq => ?_) hrest
      cases heq
      exact hreads.trans (reads_pass _ 1)
    · simp [bind, Except.bind, fail] at hrest
  · -- a handle with a suffix, or a suffix alone
    obtain ⟨⟨handle, c₁⟩, hhandle, hrest⟩ := exists_of_bind_ok h
    have hreads := reads_readHandle hhandle
    dsimp only at hrest
    split at hrest
    · obtain ⟨⟨suffix, c₂⟩, hsuffix, hrest⟩ := exists_of_bind_ok hrest
      refine hend (fun heq => ?_) hrest
      cases heq
      exact hreads.trans (reads_readSuffix hsuffix)
    · obtain ⟨⟨suffix, c₂⟩, hsuffix, hrest⟩ := exists_of_bind_ok hrest
      refine hend (fun heq => ?_) hrest
      simp only [pure, Except.pure, Except.ok.injEq] at heq
      split at heq <;> cases heq <;> exact hreads.trans (reads_readSuffix hsuffix)

/-- `readAnchor` reads an anchor or an alias. -/
theorem readsToken_readAnchor {isAlias : Bool} {t : Token}
    (h : readAnchor isAlias c = .ok (t, c')) : c.ReadsToken t c' := by
  simp only [readAnchor] at h
  split at h
  · simp at h
  · cases h
    refine ReadsFrom.readsToken ⟨reads_pass (c.pass 1) _, rfl, ?_⟩ (reads_pass c 1)
    cases isAlias <;> rfl

end Tag

/-! ## Plain scalars -/

namespace Plain

variable {flow : Bool} {indent : Int} {start : Mark} {fuel : Nat}

/-- `readRun` reads content up to a blank or to what cannot be content. -/
private theorem reads_readRun {acc : List Char} {c : Cursor} :
    c.Reads (readRun flow fuel acc c).2 := by
  induction fuel generalizing acc c with
  | zero => exact .refl c
  | succ fuel ih =>
    unfold readRun
    split
    · exact .refl c
    · split
      · exact (reads_pass c 1).trans ih
      · exact .refl c

/-- A gap is read without content, so the scalar still ends where it ended. -/
private theorem reads_readGap {r r' : Reading} (h : readGap indent start fuel r = .ok r') :
    r.cursor.Reads r'.cursor ∧ r'.stop = r.stop := by
  induction fuel generalizing r with
  | zero =>
    cases h
    exact ⟨.refl _, rfl⟩
  | succ fuel ih =>
    -- every character that is read in a gap leaves the rest of the gap to the induction
    have hgo {r₁ : Reading} (h : readGap indent start fuel r₁ = .ok r')
        (hr₁ : r.cursor.Reads r₁.cursor) (hstop : r₁.stop = r.stop) :
        r.cursor.Reads r'.cursor ∧ r'.stop = r.stop :=
      ⟨hr₁.trans (ih h).1, (ih h).2.trans hstop⟩
    simp only [readGap] at h
    split at h
    · cases h
      exact ⟨.refl _, rfl⟩
    · split at h
      · split at h
        · exact hgo h (reads_passBlanks _ 1) rfl
        · split at h
          · obtain ⟨skipped, hskipped, hrest⟩ := exists_of_bind_ok h
            split at hrest
            · exact hgo hrest (reads_skipToLineEnd hskipped) rfl
            · simp at hrest
          · exact hgo h (reads_passBlanks _ 1) rfl
      · split at h
        · split at h
          · exact hgo h (reads_passBreak _) rfl
          · exact hgo h (reads_passBreak _) rfl
        · cases h
          exact ⟨.refl _, rfl⟩

/-- `readRuns` reads runs of content with the gaps between them. The scalar ends at the end of its
last run, so its end does not go back and is never ahead of the cursor. -/
private theorem reads_readRuns {r r' : Reading} (h : readRuns flow indent start fuel r = .ok r')
    (hstop : r.stop.index ≤ r.cursor.mark.index) :
    r.cursor.Reads r'.cursor ∧ r.stop.index ≤ r'.stop.index ∧
      r'.stop.index ≤ r'.cursor.mark.index := by
  induction fuel generalizing r with
  | zero =>
    cases h
    exact ⟨.refl _, Nat.le_refl _, hstop⟩
  | succ fuel ih =>
    -- behind a run of content, or where there is none, comes a gap, and then the next run
    have hgap (r₁ : Reading) (hreads : r.cursor.Reads r₁.cursor)
        (hle : r.stop.index ≤ r₁.stop.index) (hstop₁ : r₁.stop.index ≤ r₁.cursor.mark.index)
        (h : (if (!endsWord r₁.cursor.rest || r₁.cursor.rest.isEmpty) = true then pure r₁
          else do
            let r₂ ← readGap indent start (r₁.cursor.rest.length + 1) r₁
            if (!flow && decide (r₂.cursor.column < indent)) = true then pure r₂
            else readRuns flow indent start fuel r₂) = .ok r') :
        r.cursor.Reads r'.cursor ∧ r.stop.index ≤ r'.stop.index ∧
          r'.stop.index ≤ r'.cursor.mark.index := by
      split at h
      · cases h
        exact ⟨hreads, hle, hstop₁⟩
      · obtain ⟨r₂, hr₂, hrest⟩ := exists_of_bind_ok h
        obtain ⟨hreads₂, heq⟩ := reads_readGap hr₂
        have hstop₂ : r₂.stop.index ≤ r₂.cursor.mark.index :=
          heq ▸ Nat.le_trans hstop₁ hreads₂.index_le
        split at hrest
        · cases hrest
          exact ⟨hreads.trans hreads₂, heq ▸ hle, hstop₂⟩
        · obtain ⟨hreads₃, hle₃, hstop₃⟩ := ih hrest hstop₂
          rw [heq] at hle₃
          exact ⟨(hreads.trans hreads₂).trans hreads₃, Nat.le_trans hle hle₃, hstop₃⟩
    simp only [readRuns] at h
    split at h
    · cases h
      exact ⟨.refl _, Nat.le_refl _, hstop⟩
    · split at h
      · simp at h
      · -- a run is read only where content can go on, and then the scalar ends behind it
        by_cases hcan : canContinue flow r.cursor.rest = true
        · have hrun : r.cursor.Reads (readRun flow (r.cursor.rest.length + 1) r.folded
              { r.cursor with fresh := false }).2 :=
            Reads.trans ⟨0, rfl, rfl⟩ reads_readRun
          simp only [hcan, if_true] at h
          exact hgap ⟨_, _, [], false, 0, _⟩ hrun (Nat.le_trans hstop hrun.index_le)
            (Nat.le_refl _) h
        · simp only [hcan] at h
          exact hgap r (.refl _) (Nat.le_refl _) hstop h

/-- `Plain.read` reads a plain scalar, whose token leaves out the gap behind it. -/
theorem readsToken_read {c c' : Cursor} {t : Token} (h : read flow indent c = .ok (t, c')) :
    c.ReadsToken t c' := by
  simp only [read] at h
  split at h
  · simp at h
  · obtain ⟨r, hr, hrest⟩ := exists_of_bind_ok h
    obtain ⟨hreads, hle, hstop⟩ := reads_readRuns hr (Nat.le_refl _)
    split at hrest
    · simp at hrest
    · cases hrest
      exact ⟨hreads, Nat.le_refl _, hle, hstop, rfl, fun _ => rfl⟩

end Plain

/-! ## Quoted scalars -/

namespace Quoted

variable {single flow : Bool} {indent : Int} {start : Mark} {fuel : Nat} {c c' : Cursor}

/-- `readEscape` reads an escape sequence. -/
private theorem reads_readEscape {ch : Char} (h : readEscape start c = .ok (ch, c')) :
    c.Reads c' := by
  unfold readEscape at h
  split at h
  · simp at h
  · -- one character is escaped, or a code point is written by its digits
    split at h
    · cases h
      exact reads_pass c 2
    · split at h
      · simp at h
      · dsimp only at h
        split at h
        · simp at h
        · split at h
          · cases h
            exact reads_pass c _
          · simp at h

/-- `readContent` reads the content of a quoted scalar up to a gap or a quote. -/
private theorem reads_readContent {acc acc' : List Char} {escaped : Bool}
    (h : readContent single start fuel acc c = .ok (acc', escaped, c')) : c.Reads c' := by
  induction fuel generalizing acc c with
  | zero =>
    cases h
    exact .refl _
  | succ fuel ih =>
    -- every character of content leaves the rest to the induction; the other cases stop here
    have hgo {c₁ : Cursor} {acc₁ : List Char} (hc₁ : c.Reads c₁)
        (h : readContent single start fuel acc₁ c₁ = .ok (acc', escaped, c')) : c.Reads c' :=
      hc₁.trans (ih h)
    unfold readContent at h
    split at h
    · cases h
      exact .refl _
    · split at h
      · cases h
        exact .refl _
      · split at h
        · split at h
          · split at h
            · exact hgo (reads_pass c 2) h
            · cases h
              exact .refl _
          · exact hgo (reads_pass c 1) h
        · split at h
          · cases h
            exact .refl _
          · split at h
            · split at h
              · split at h
                · cases h
                  exact (reads_pass c 1).trans (reads_passBreak _)
                · obtain ⟨⟨e, c₁⟩, hescape, hrest⟩ := exists_of_bind_ok h
                  exact hgo (reads_readEscape hescape) hrest
              · simp at h
            · exact hgo (reads_pass c 1) h

/-- `readGap` reads blanks and line breaks between the lines of a quoted scalar. -/
private theorem reads_readGap {g g' : Gap} (h : readGap indent fuel g c = .ok (g', c')) :
    c.Reads c' := by
  induction fuel generalizing g c with
  | zero =>
    cases h
    exact .refl _
  | succ fuel ih =>
    unfold readGap at h
    split at h
    · cases h
      exact .refl _
    · split at h
      · split at h
        · split at h
          · simp at h
          · exact (reads_passBlanks c 1).trans (ih h)
        · exact (reads_passBlanks c 1).trans (ih h)
      · split at h
        · split at h
          · exact (reads_passBreak c).trans (ih h)
          · exact (reads_passBreak c).trans (ih h)
        · cases h
          exact .refl _

/-- `readBody` reads content and gaps in turn, up to the closing quote. -/
private theorem reads_readBody {acc acc' : List Char}
    (h : readBody single indent start fuel acc c = .ok (acc', c')) : c.Reads c' := by
  induction fuel generalizing acc c with
  | zero => simp [readBody] at h
  | succ fuel ih =>
    simp only [readBody] at h
    split at h
    · -- a marker, the end of the text and bad indentation are faults
      simp at h
    · split at h
      · simp at h
      · split at h
        · simp at h
        · obtain ⟨⟨acc₁, escaped, c₁⟩, hcontent, hrest⟩ := exists_of_bind_ok h
          dsimp only at hrest
          split at hrest
          · cases hrest
            exact reads_readContent hcontent
          · obtain ⟨⟨g, c₂⟩, hgap, hrest⟩ := exists_of_bind_ok hrest
            exact ((reads_readContent hcontent).trans (reads_readGap hgap)).trans (ih hrest)

/-- `Quoted.read` reads a quoted scalar with both quotes, and what may follow on its line. -/
theorem readsToken_read {t : Token} (h : read single flow indent c = .ok (t, c')) :
    c.ReadsToken t c' := by
  simp only [read] at h
  obtain ⟨⟨acc, c₁⟩, hbody, hrest⟩ := exists_of_bind_ok h
  obtain ⟨skipped, hskipped, hrest⟩ := exists_of_bind_ok hrest
  split at hrest
  · cases hrest
    have hreads := ((reads_pass c 1).trans (reads_readBody hbody)).trans
      ((reads_pass _ 1).trans (reads_skipToLineEnd hskipped))
    exact ReadsFrom.readsToken ⟨hreads, rfl, rfl⟩ (.refl c)
  · simp at hrest

end Quoted

/-! ## Block scalars -/

namespace Block

variable {literal : Bool} {start : Mark} {fuel : Nat} {c c' : Cursor}

private theorem reads_readChomping (c : Cursor) : c.Reads (readChomping c).2 := by
  unfold readChomping
  split
  · exact reads_pass c 1
  · exact reads_pass c 1
  · exact .refl c

/-- `readIncrement` reads one digit or nothing. -/
private theorem reads_readIncrement {n : Nat} (h : readIncrement start c = .ok (n, c')) :
    c.Reads c' := by
  unfold readIncrement at h
  split at h
  · split at h
    · split at h
      · simp at h
      · cases h
        exact reads_pass c 1
    · cases h
      exact .refl _
  · cases h
    exact .refl _

/-- `readHeader` reads the two indicators of a block scalar in either order. -/
private theorem reads_readHeader {header : Header} (h : readHeader start c = .ok (header, c')) :
    c.Reads c' := by
  have hchomping := reads_readChomping c
  unfold readHeader at h
  -- the chomping comes first, or the indentation, behind which it may still come
  split at h
  · next heq =>
    rw [heq] at hchomping
    obtain ⟨⟨n, c₁⟩, hincrement, hrest⟩ := exists_of_bind_ok h
    cases hrest
    exact hchomping.trans (reads_readIncrement hincrement)
  · obtain ⟨⟨n, c₁⟩, hincrement, hrest⟩ := exists_of_bind_ok h
    dsimp only at hrest
    split at hrest
    · cases hrest
      exact reads_readIncrement hincrement
    · cases hrest
      exact (reads_readIncrement hincrement).trans (reads_readChomping _)

/-- `skipIndent` reads empty lines and the indentation of the line behind them. -/
private theorem reads_skipIndent {indent breaks : Nat} :
    c.Reads (skipIndent indent fuel breaks c).2 := by
  induction fuel generalizing breaks c with
  | zero => exact .refl c
  | succ fuel ih =>
    simp only [skipIndent]
    split
    · split
      · exact ((reads_passBlanks c _).trans (reads_passBreak _)).trans ih
      · exact reads_passBlanks c _
    · exact reads_passBlanks c _

/-- `skipFirstIndent` does the same where the indentation is not known yet. -/
private theorem reads_skipFirstIndent {widest breaks : Nat} :
    c.Reads (skipFirstIndent fuel widest breaks c).2.2 := by
  induction fuel generalizing widest breaks c with
  | zero => exact .refl c
  | succ fuel ih =>
    simp only [skipFirstIndent]
    split
    · split
      · exact ((reads_passWhile c _).trans (reads_passBreak _)).trans ih
      · exact reads_passWhile c _
    · exact reads_passWhile c _

/-- `skipToContent` reads up to the first line with content. -/
private theorem reads_skipToContent (header : Header) (parent : Int) (c : Cursor) :
    c.Reads (skipToContent header parent c).2.2 := by
  unfold skipToContent
  split
  · exact reads_skipFirstIndent
  · exact reads_skipIndent

/-- `readLines` reads lines of content as long as they are indented far enough. -/
private theorem reads_readLines (literal : Bool) (indent fuel : Nat) (r : Reading) :
    r.cursor.Reads (readLines literal indent fuel r).cursor := by
  induction fuel generalizing r with
  | zero => exact .refl _
  | succ fuel ih =>
    simp only [readLines]
    split
    · exact .refl _
    · split
      · exact reads_passBlanks _ _
      · refine Reads.trans ?_ (ih _)
        exact ((reads_passBlanks _ _).trans (reads_passBreak _)).trans reads_skipIndent

/-- `Block.read` reads a block scalar, whose token starts behind its header. -/
theorem readsToken_read {parent : Int} {t : Token} (h : read literal parent c = .ok (t, c')) :
    c.ReadsToken t c' := by
  simp only [read] at h
  obtain ⟨⟨header, c₁⟩, hheader, hrest⟩ := exists_of_bind_ok h
  obtain ⟨skipped, hskipped, hrest⟩ := exists_of_bind_ok hrest
  have hbreak := (((reads_pass c 1).trans (reads_readHeader hheader)).trans
    (reads_skipToLineEnd hskipped)).trans (reads_passBreak _)
  split at hrest
  · simp at hrest
  · split at hrest
    · simp at hrest
    · have hcontent := hbreak.trans (reads_skipToContent header parent skipped.cursor.passBreak)
      dsimp only at hrest
      generalize skipToContent header parent skipped.cursor.passBreak = content at hrest hcontent
      obtain ⟨indent, breaks, c₂⟩ := content
      dsimp only at hrest hcontent
      split at hrest
      · -- nothing but the header is there
        cases hrest
        exact ReadsFrom.readsToken ⟨hcontent, rfl, rfl⟩ (.refl c)
      · split at hrest
        · simp at hrest
        · -- the token starts with the first line of the content
          cases hrest
          have hlines := reads_readLines literal indent (c₂.rest.length + 1)
            ⟨c₂, [], false, breaks, false⟩
          exact ⟨hcontent.trans hlines, hcontent.index_le, hlines.index_le, Nat.le_refl _, rfl,
            nofun⟩

end Block

end PrimitiveDesk.Yaml
