import PrimitiveDesk.Proofs.Yaml.Offsets
import PrimitiveDesk.Proofs.Yaml.ParserStep
import PrimitiveDesk.Proofs.Yaml.ScannerOrder

/-!
# The ranges of documents

A document that another one follows ends with its end marker, or with the start marker of the next
one. In the second case the two ranges share this marker, and an offset on it belongs to the earlier
document. Ranges of documents that are not neighbours never meet.

The invariant relates the builder to the tokens that the parser has left: what is finished stands in
front of them, as far as `Clear` says (`Tracks`). One step of the parser keeps it (`Tracks.step`),
and so the documents of a whole text follow each other (`Stream.chained_ofText`). Tokens are
compared by bytes here, since that is what ranges count (`InOrder.spaced`).
-/

namespace PrimitiveDesk.Yaml

open Text

/-! ## Tokens by bytes -/

/-- The marker in front of a document. -/
def startMarker : List Char := ['-', '-', '-']

/-- The marker behind a document. -/
def endMarker : List Char := ['.', '.', '.']

/-- The marker that a token is written with, if it is one. -/
def TokenKind.marker : TokenKind → List Char
  | documentStart => startMarker
  | documentEnd => endMarker
  | _ => []

/-- The word stands in the text at a byte offset. -/
def WrittenAt (cs : List Char) (offset : Nat) (word : List Char) : Prop :=
  ∃ rest, dropBytes? cs offset = some (word ++ rest)

/-- The bytes of a token. -/
def Token.span (t : Token) (cs : List Char) : Span := Builder.spanOf cs t.extent

/-- Tokens stand in the order of the text, by bytes. -/
structure Spaced (cs : List Char) (ts : List Token) : Prop where
  pairwise : ts.Pairwise fun t u => (t.span cs).stop ≤ (u.span cs).start ∧
    (t.kind.isMarker = true → u.kind.isMarker = true → (t.span cs).stop < (u.span cs).start)
  start_le_stop : ∀ t ∈ ts, (t.span cs).start ≤ (t.span cs).stop
  stop_eq : ∀ t ∈ ts, t.kind.isMarker = true → (t.span cs).stop = (t.span cs).start + 3
  written : ∀ t ∈ ts, t.kind.isMarker = true → WrittenAt cs (t.span cs).start t.kind.marker

/-- A marker takes three characters of one byte each. -/
private theorem TokenKind.marker_eq {kind : TokenKind} (h : kind.isMarker = true) :
    ∃ c, kind.marker = [c, c, c] ∧ c.utf8Size = 1 := by
  cases kind with
  | documentStart => exact ⟨'-', rfl, rfl⟩
  | documentEnd => exact ⟨'.', rfl, rfl⟩
  | _ => cases h

/-- A marker token stands where its marker is written. -/
private theorem Token.IsWritten.exists_drop {t : Token} {cs : List Char} (h : t.IsWritten cs)
    (hkind : t.kind.isMarker = true) :
    ∃ rest, cs.drop t.extent.start.index = t.kind.marker ++ rest := by
  cases hcase : t.kind with
  | documentStart =>
    have hstarts := h.startsDocument hcase
    unfold Yaml.startsDocument at hstarts
    split at hstarts
    · next rest hrest => exact ⟨rest, hrest⟩
    · cases hstarts
  | documentEnd =>
    have hends := h.endsDocument hcase
    unfold Yaml.endsDocument at hends
    split at hends
    · next rest hrest => exact ⟨rest, hrest⟩
    · cases hends
  | _ =>
    rw [hcase] at hkind
    cases hkind

/-- Order by characters is order by bytes. -/
theorem InOrder.spaced {front : List Char} {ts : List Token} (h : InOrder front ts)
    (back : List Char) : Spaced (front ++ back) ts := by
  -- a marker stands in the part of the text that was read
  have hmarker {t : Token} (ht : t ∈ ts) (hkind : t.kind.isMarker = true) :
      t.extent.start.index < front.length ∧
        ∃ rest, (front ++ back).drop t.extent.start.index = t.kind.marker ++ rest := by
    obtain ⟨rest, hrest⟩ := (h.written t ht).exists_drop hkind
    obtain ⟨c, hc, -⟩ := TokenKind.marker_eq hkind
    have hlt : t.extent.start.index < front.length := by
      have hlength := congrArg List.length hrest
      rw [hc, List.length_drop] at hlength
      simp at hlength
      omega
    refine ⟨hlt, rest ++ back, ?_⟩
    rw [List.drop_append_of_le_length (Nat.le_of_lt hlt), hrest, List.append_assoc]
  refine ⟨?_, fun t ht => ?_, fun t ht hkind => ?_, fun t ht hkind => ?_⟩
  · -- between two markers stands at least one character, hence at least one byte
    refine h.pairwise.imp_of_mem fun {t u} ht hu hprecedes => ?_
    refine ⟨byteOffset_le_byteOffset _ hprecedes.stop_le, fun htkind hukind => ?_⟩
    have hlt := (hmarker hu hukind).1
    have hapart := hprecedes.apart htkind
    refine byteOffset_lt_byteOffset _ ?_ (by omega)
    rw [List.length_append]
    omega
  · exact byteOffset_le_byteOffset _ (h.start_le_stop t ht)
  · -- three characters of one byte each
    obtain ⟨-, rest, hrest⟩ := hmarker ht hkind
    obtain ⟨c, hc, hsize⟩ := TokenKind.marker_eq hkind
    have hstop := (h.written t ht).stop_eq hkind
    show byteOffset _ _ = byteOffset _ _ + 3
    rw [hstop, byteOffset_add, hrest, hc]
    simp [byteLength, hsize]
  · obtain ⟨-, rest, hrest⟩ := hmarker ht hkind
    exact ⟨rest, (dropBytes?_byteOffset _ _).trans (congrArg some hrest)⟩

namespace Spaced

variable {cs : List Char} {ts us : List Token} {t u : Token}

private theorem suffix (h : Spaced cs ts) (hus : us <:+ ts) : Spaced cs us where
  pairwise := h.pairwise.sublist hus.sublist
  start_le_stop t ht := h.start_le_stop t (hus.subset ht)
  stop_eq t ht := h.stop_eq t (hus.subset ht)
  written t ht := h.written t (hus.subset ht)

private theorem stop_le (h : Spaced cs (t :: ts)) (hu : u ∈ ts) :
    (t.span cs).stop ≤ (u.span cs).start :=
  ((List.pairwise_cons.mp h.pairwise).1 u hu).1

/-- Something stands between the first token and another one if both are markers. -/
private theorem stop_lt (h : Spaced cs (t :: ts)) (hu : u ∈ ts) (ht : t.kind.isMarker = true)
    (hmarker : u.kind.isMarker = true) : (t.span cs).stop < (u.span cs).start :=
  ((List.pairwise_cons.mp h.pairwise).1 u hu).2 ht hmarker

private theorem start_le (h : Spaced cs (t :: ts)) (hu : u ∈ t :: ts) :
    (t.span cs).start ≤ (u.span cs).start := by
  obtain rfl | hu := List.mem_cons.mp hu
  · exact Nat.le_refl _
  · exact Nat.le_trans (h.start_le_stop t List.mem_cons_self) (h.stop_le hu)

end Spaced

/-- Every token left ends at the offset or behind it. -/
def Reached (cs : List Char) (ts : List Token) (offset : Nat) : Prop :=
  ∀ t ∈ ts, offset ≤ (t.span cs).stop

private theorem Reached.suffix {cs : List Char} {ts us : List Token} {offset : Nat}
    (h : Reached cs ts offset) (hus : us <:+ ts) : Reached cs us offset :=
  fun t ht => h t (hus.subset ht)

/-- The tokens left are not in front of one that was seen. -/
theorem Spaced.reached_of_seen {cs : List Char} {ts rest : List Token} {t : Token}
    (h : Spaced cs ts) (ht : Seen ts rest t) : (t.span cs).Within (Reached cs rest) := by
  obtain ⟨front, back, rfl, hrest⟩ := ht
  have hback := h.suffix (List.suffix_append front (t :: back))
  have hstop : Reached cs rest (t.span cs).stop := by
    intro u hu
    obtain rfl | hu := List.mem_cons.mp (hrest.subset hu)
    · exact Nat.le_refl _
    · exact Nat.le_trans (hback.stop_le hu) (hback.start_le_stop u (List.mem_cons_of_mem t hu))
  have hle := hback.start_le_stop t List.mem_cons_self
  exact ⟨fun u hu => Nat.le_trans hle (hstop u hu), hstop⟩

/-! ## Documents and the tokens left -/

/-- The document ends with its end marker. -/
def Document.EndsMarked (cs : List Char) (d : Document) : Prop :=
  ∃ offset, d.range.stop = offset + 3 ∧ WrittenAt cs offset endMarker

/-- A document may start at an offset behind the finished ones, latest first. The last of them ends
with its end marker in front of the offset, or with the start marker at the offset. -/
structure Follows (cs : List Char) (ds : List Document) (start : Nat) : Prop where
  start_le : ∀ d ∈ ds.head?, d.range.start ≤ start
  last : ∀ d ∈ ds.head?, d.EndsMarked cs ∧ d.range.stop ≤ start ∨
    WrittenAt cs start startMarker ∧ d.range.stop = start + 3
  earlier : ∀ d ∈ ds.tail, d.range.stop < start

/-- Each document follows those finished before it; the latest comes first. -/
def Chained (cs : List Char) : List Document → Prop
  | [] => True
  | d :: ds => Follows cs ds d.range.start ∧ Chained cs ds

/-- The tokens left stand behind the finished documents, latest first. Something stands between a
document and a marker, and between the tokens and all documents but the last. -/
structure Clear (cs : List Char) (ds : List Document) (ts : List Token) : Prop where
  start_le : ∀ d ∈ ds, ∀ t ∈ ts, d.range.start ≤ (t.span cs).start
  stop_le : ∀ d ∈ ds, ∀ t ∈ ts, d.range.stop ≤ (t.span cs).start
  stop_lt : ∀ d ∈ ds, ∀ t ∈ ts, t.kind.isMarker = true → d.range.stop < (t.span cs).start
  earlier : ∀ d ∈ ds.tail, ∀ t ∈ ts, d.range.stop < (t.span cs).start

/-- The tokens left are clear of the finished documents if all are. -/
private theorem Clear.suffix {cs : List Char} {ds : List Document} {ts us : List Token}
    (h : Clear cs ds ts) (hus : us <:+ ts) : Clear cs ds us where
  start_le d hd t ht := h.start_le d hd t (hus.subset ht)
  stop_le d hd t ht := h.stop_le d hd t (hus.subset ht)
  stop_lt d hd t ht := h.stop_lt d hd t (hus.subset ht)
  earlier d hd t ht := h.earlier d hd t (hus.subset ht)

/-- Behind an end marker a document may start with any of the tokens left. -/
private theorem Clear.follows {cs : List Char} {ds : List Document} {ts : List Token}
    (h : Clear cs ds ts) (hds : ∀ d ∈ ds.head?, d.EndsMarked cs) {t : Token} (ht : t ∈ ts) :
    Follows cs ds (t.span cs).start where
  start_le d hd := h.start_le d (List.mem_of_mem_head? hd) t ht
  last d hd := .inl ⟨hds d hd, h.stop_le d (List.mem_of_mem_head? hd) t ht⟩
  earlier d hd := h.earlier d hd t ht

/-- Behind a marker that ends a document stand the tokens that follow it. -/
private theorem Clear.cons {cs : List Char} {ds : List Document} {t : Token} {ts : List Token}
    (h : Clear cs ds (t :: ts)) (hts : Spaced cs (t :: ts)) (ht : t.kind.isMarker = true)
    {d : Document} (hstart : d.range.start ≤ (t.span cs).start)
    (hstop : d.range.stop = (t.span cs).stop) : Clear cs (d :: ds) ts := by
  have hle {u : Token} (hu : u ∈ ts) : (t.span cs).start ≤ (u.span cs).start :=
    hts.start_le (List.mem_cons_of_mem t hu)
  -- the earlier documents are apart from the marker, so from all that comes behind it
  have hlt {d' : Document} (hd' : d' ∈ ds) {u : Token} (hu : u ∈ ts) :
      d'.range.stop < (u.span cs).start :=
    Nat.lt_of_lt_of_le (h.stop_lt d' hd' t List.mem_cons_self ht) (hle hu)
  refine ⟨?_, ?_, ?_, fun d' hd' u hu => hlt hd' hu⟩
  · refine List.forall_mem_cons.mpr ⟨fun u hu => Nat.le_trans hstart (hle hu), ?_⟩
    intro d' hd' u hu
    exact Nat.le_trans (h.start_le d' hd' t List.mem_cons_self) (hle hu)
  · refine List.forall_mem_cons.mpr ⟨fun u hu => ?_, fun d' hd' u hu => Nat.le_of_lt (hlt hd' hu)⟩
    exact hstop ▸ hts.stop_le hu
  · refine List.forall_mem_cons.mpr ⟨fun u hu hmarker => ?_, fun d' hd' u hu _ => hlt hd' hu⟩
    exact hstop ▸ hts.stop_lt hu ht hmarker

/-- The last document has ended at the first of the tokens left, which belongs to what follows. -/
def EndedBefore (cs : List Char) (ds : List Document) (ts : List Token) : Prop :=
  ∃ d earlier t later, ds = d :: earlier ∧ ts = t :: later ∧ t.kind.isSkipped = false ∧
    Clear cs earlier ts ∧ d.range.start ≤ (t.span cs).start ∧ d.range.stop = (t.span cs).stop

/-- The place is inside of a document, and if a pair ends there, the tokens left are not in front of
its end. -/
def Place.IsAhead (q : Place) (cs : List Char) (ts : List Token) : Prop :=
  q.isInner = true ∧ ∀ stop, q = .flowPairEnd stop → Reached cs ts (byteOffset cs stop.index)

/-- A document that started at an offset is open. -/
structure InDocument (cs : List Char) (b : Builder) (p : Parser) (d : OpenDocument) : Prop where
  current : b.current? = some d
  follows : Follows cs b.documents d.start
  clear : Clear cs b.documents p.tokens
  start_le : ∀ t ∈ p.tokens, d.start ≤ (t.span cs).start
  places : ∃ inner, p.place :: p.returns = inner ++ [.documentEnd] ∧
    ∀ q ∈ inner, q.IsAhead cs p.tokens

/-- What the builder holds when the parser is at its place. -/
def Stage (cs : List Char) (b : Builder) (p : Parser) : Prop :=
  match p.place with
  | .streamStart => b.current? = none ∧ p.returns = [] ∧ b.documents = []
  | .implicitDocumentStart => b.current? = none ∧ p.returns = [] ∧
      Clear cs b.documents p.tokens ∧ ∀ d ∈ b.documents.head?, d.EndsMarked cs
  | .documentStart => b.current? = none ∧ p.returns = [] ∧ EndedBefore cs b.documents p.tokens
  | .finished => b.current? = none
  | _ => ∃ d, InDocument cs b p d

/-- The builder has taken the events in front of the tokens that the parser has left. -/
structure Tracks (cs : List Char) (b : Builder) (p : Parser) : Prop where
  spaced : Spaced cs p.tokens
  within : b.Within (Reached cs p.tokens)
  chained : Chained cs b.documents
  stage : Stage cs b p

/-! ## One step -/

namespace Tracks

variable {cs : List Char} {b : Builder} {p p' : Parser} {e : Event} {d : OpenDocument} {t : Token}
  {ts : List Token}

/-- At an inner place a document is open. -/
theorem inDocument_of_isInner (hplace : p.place.isInner = true) (h : Stage cs b p) :
    ∃ d, InDocument cs b p d := by
  have hne {q : Place} (hcase : p.place = q) (hq : q.isInner = false) : False := by
    rw [hcase, hq] at hplace
    cases hplace
  unfold Stage at h
  split at h
  · next hcase => exact (hne hcase rfl).elim
  · next hcase => exact (hne hcase rfl).elim
  · next hcase => exact (hne hcase rfl).elim
  · next hcase => exact (hne hcase rfl).elim
  · exact h

/-- Where a document is to end, it is open. -/
private theorem inDocument_of_documentEnd (hplace : p.place = .documentEnd) (h : Stage cs b p) :
    ∃ d, InDocument cs b p d := by
  rw [Stage, hplace] at h
  exact h

/-- With an open document the parser is at an inner place or where the document is to end, and
`Stage` asks for nothing else there. -/
private theorem stage_of_inDocument (h : InDocument cs b p d) : Stage cs b p := by
  have hplace : p.place.isInner = true ∨ p.place = .documentEnd := by
    obtain ⟨inner, hplaces, hinner⟩ := h.places
    cases inner with
    | nil => exact .inr (List.cons.inj hplaces).1
    | cons q inner => exact .inl ((List.cons.inj hplaces).1 ▸ (hinner q List.mem_cons_self).1)
  have hne {q : Place} (hcase : p.place = q) (hq : q.isInner = false) (hend : q ≠ .documentEnd) :
      False := by
    rw [hcase, hq] at hplace
    exact hplace.elim nofun hend
  -- the four places at which no document is open are ruled out
  unfold Stage
  split
  · next hcase => exact (hne hcase rfl nofun).elim
  · next hcase => exact (hne hcase rfl nofun).elim
  · next hcase => exact (hne hcase rfl nofun).elim
  · next hcase => exact (hne hcase rfl nofun).elim
  · exact ⟨d, h⟩

/-- Inside of a document, what is left of the places ends with the document's end. -/
theorem returns_of_isInner (h : InDocument cs b p d) (hplace : p.place.isInner = true) :
    p.place.IsAhead cs p.tokens ∧ ∃ inner, p.returns = inner ++ [.documentEnd] ∧
      ∀ q ∈ inner, q.IsAhead cs p.tokens := by
  obtain ⟨inner, hplaces, hinner⟩ := h.places
  cases inner with
  | nil =>
    obtain ⟨hhead, -⟩ := List.cons.inj hplaces
    rw [hhead] at hplace
    cases hplace
  | cons q inner =>
    obtain ⟨hhead, hreturns⟩ := List.cons.inj hplaces
    obtain ⟨hq, hinner⟩ := List.forall_mem_cons.mp hinner
    exact ⟨hhead ▸ hq, inner, hreturns, hinner⟩

/-- `Builder.step` ends the current document with the token of the event. -/
private theorem documents_step_documentEnd (hb : b.current? = some d) (he : e.kind = .documentEnd)
    (hwithin : b.Within (· ≤ (Builder.spanOf cs e.extent).stop)) :
    ∃ d', (Builder.step cs b e).documents = d' :: b.documents ∧
      (Builder.step cs b e).current? = none ∧ d'.range.start = d.start ∧
      d'.range.stop = (Builder.spanOf cs e.extent).stop := by
  have hends : e.kind.endsDocument = true := by rw [he]; rfl
  have hmarker : Builder.markerStop? cs e = some (Builder.spanOf cs e.extent).stop := by
    rw [Builder.markerStop?, he]
  have hopened : Builder.opened? cs e = none := by rw [Builder.opened?, he]; rfl
  obtain ⟨hstart, hprogress⟩ := hwithin.current d hb
  have hstop : ∀ stop ∈ Builder.markerStop? cs e, stop ≤ (Builder.spanOf cs e.extent).stop := by
    rw [hmarker]
    exact fun stop hstop => Nat.le_of_eq (Option.some.inj hstop).symm
  -- nothing in the document reaches over the token, so that its end is the end of the range
  have hfinish := hwithin.finish hstart hprogress hstop
  rw [Builder.finish_eq, hmarker] at hfinish
  rw [Builder.step_ends cs hb hends, Builder.finish_eq, hmarker]
  refine ⟨_, rfl, hopened, rfl, Nat.le_antisymm ?_ (Nat.le_max_right _ _)⟩
  exact hfinish.documents _ List.mem_cons_self _ (by simp [Document.offsets])

/-- `Builder.step` ignores events outside of documents that open none. -/
private theorem step_of_not_opens (hb : b.current? = none) (he : e.kind.opensDocument = false) :
    Builder.step cs b e = b := by
  rw [Builder.step_outside cs hb, Builder.opened?, he, ← hb]
  rfl

private theorem within_suffix (h : b.Within (Reached cs p.tokens)) (hts : ts <:+ p.tokens) :
    b.Within (Reached cs ts) :=
  h.mono fun _ hreached => hreached.suffix hts

/-- A step that only uses tokens keeps what does not depend on the place. -/
private theorem of_suffix (h : Tracks cs b p) (hts : p'.tokens <:+ p.tokens)
    (hstage : Stage cs b p') :
    Tracks cs b p' :=
  ⟨h.spaced.suffix hts, within_suffix h.within hts, h.chained, hstage⟩

/-- A document is opened at a token. -/
private theorem opens (h : Tracks cs b p) (hb : b.current? = none) (hts : p'.tokens <:+ p.tokens)
    (ht : Seen p.tokens p'.tokens t)
    (hstart : ∀ u ∈ p'.tokens, (t.span cs).start ≤ (u.span cs).start)
    (hfollows : Follows cs b.documents (t.span cs).start) (hclear : Clear cs b.documents p'.tokens)
    {q : Place} (hplaces : p'.place :: p'.returns = [q, .documentEnd])
    (hq : q.IsAhead cs p'.tokens) :
    Tracks cs (Builder.step cs b ⟨.documentStart, t.extent⟩) p' := by
  have hstep := Builder.step_outside cs hb ⟨.documentStart, t.extent⟩
  have hwithin := (within_suffix h.within hts).step (e := ⟨.documentStart, t.extent⟩)
    (h.spaced.reached_of_seen ht)
  rw [hstep] at hwithin ⊢
  refine ⟨h.spaced.suffix hts, hwithin, h.chained, ?_⟩
  -- the document knows nothing but its start, and will end when the parser returns to `documentEnd`
  exact stage_of_inDocument (d := ⟨(t.span cs).start, .awaiting⟩)
    ⟨rfl, hfollows, hclear, hstart, [q], hplaces, fun _ hr => List.mem_singleton.mp hr ▸ hq⟩

/-- `Builder.step` inside of a document leaves the finished documents and the start of the current
one as they are. -/
private theorem stays (h : Tracks cs b p) (hin : InDocument cs b p d) (hts : p'.tokens <:+ p.tokens)
    (hkind : e.kind.endsDocument = false)
    (he : (Builder.spanOf cs e.extent).Within (Reached cs p'.tokens))
    (hplaces : ∃ inner, p'.place :: p'.returns = inner ++ [.documentEnd] ∧
      ∀ q ∈ inner, q.IsAhead cs p'.tokens) : Tracks cs (Builder.step cs b e) p' := by
  have hwithin := (within_suffix h.within hts).step he
  have hstep := Builder.step_inside cs hin.current hkind
  -- the step works on the nodes of the current document alone
  have hdocuments : (Builder.step cs b e).documents = b.documents := by
    rw [hstep]
    exact Builder.progress_documents cs b e d.progress
  refine ⟨h.spaced.suffix hts, hwithin, hdocuments ▸ h.chained, ?_⟩
  refine stage_of_inDocument (d := ⟨d.start, (b.progress cs e d.progress).2⟩)
    ⟨by rw [hstep], ?_, ?_, fun t ht => hin.start_le t (hts.subset ht), hplaces⟩
  · rw [hdocuments]
    exact hin.follows
  · rw [hdocuments]
    exact hin.clear.suffix hts

/-- Opening a document at its marker. -/
private theorem opensAt {skipped : List Token} (h : Tracks cs b p)
    (hplace : p.place = .implicitDocumentStart ∨ p.place = .documentStart)
    (ht : t.kind = .documentStart) (htokens : p.tokens = skipped ++ t :: p'.tokens)
    (hskipped : ∀ u ∈ skipped, u.kind.isSkipped = true)
    (hreturns : p'.place :: p'.returns = .documentContent :: .documentEnd :: p.returns) :
    Tracks cs (Builder.step cs b ⟨.documentStart, t.extent⟩) p' := by
  have hmarker : t.kind.isMarker = true := by rw [ht]; rfl
  have hsuffix : t :: p'.tokens <:+ p.tokens := htokens ▸ List.suffix_append skipped _
  have hspaced := h.spaced.suffix hsuffix
  have hrest : p'.tokens <:+ p.tokens := (List.suffix_cons t p'.tokens).trans hsuffix
  have hseen : Seen p.tokens p'.tokens t :=
    ⟨skipped, p'.tokens, htokens, List.suffix_cons t p'.tokens⟩
  have hstart (u : Token) (hu : u ∈ p'.tokens) : (t.span cs).start ≤ (u.span cs).start :=
    hspaced.start_le (List.mem_cons_of_mem t hu)
  have hstage := h.stage
  unfold Stage at hstage
  obtain hplace | hplace := hplace
  · -- the last document ended with an end marker, somewhere in front
    rw [hplace] at hstage
    obtain ⟨hcurrent, hnil, hclear, hends⟩ := hstage
    rw [hnil] at hreturns
    have hfollows := hclear.follows hends (hsuffix.subset List.mem_cons_self)
    exact h.opens hcurrent hrest hseen hstart hfollows (hclear.suffix hrest) hreturns ⟨rfl, nofun⟩
  · rw [hplace] at hstage
    obtain ⟨hcurrent, hnil, hended⟩ := hstage
    obtain ⟨d, earlier, u, later, hdocuments, hlater, hu, hclear, hle, hstop⟩ := hended
    rw [hnil] at hreturns
    -- the document ended at the marker itself, since nothing else may stand in front of it
    obtain ⟨rfl, rfl⟩ : u = t ∧ later = p'.tokens := by
      rw [hlater] at htokens
      cases skipped with
      | nil => exact List.cons.inj htokens
      | cons v skipped =>
        obtain ⟨rfl, -⟩ := List.cons.inj htokens
        have := hskipped u List.mem_cons_self
        rw [hu] at this
        cases this
    rw [hlater] at hclear
    have hfollows : Follows cs b.documents (u.span cs).start := by
      rw [hdocuments]
      refine ⟨?_, ?_, fun e he => hclear.stop_lt e he u List.mem_cons_self hmarker⟩
      · rintro e ⟨⟩
        exact hle
      · rintro e ⟨⟩
        have hwritten := hspaced.written u List.mem_cons_self hmarker
        rw [ht] at hwritten
        exact .inr ⟨hwritten, hstop.trans (hspaced.stop_eq u List.mem_cons_self hmarker)⟩
    refine h.opens hcurrent hrest hseen hstart hfollows ?_ hreturns ⟨rfl, nofun⟩
    rw [hdocuments]
    exact hclear.cons hspaced hmarker hle hstop

/-- Opening a document at a token of its content. -/
private theorem opensHere (h : Tracks cs b p) (hplace : p.place = .implicitDocumentStart)
    (htokens : t :: ts <:+ p.tokens) (htokens' : p'.tokens = t :: ts)
    (hreturns : p'.place :: p'.returns = .blockNode :: .documentEnd :: p.returns) :
    Tracks cs (Builder.step cs b ⟨.documentStart, t.extent⟩) p' := by
  have hstage := h.stage
  rw [Stage, hplace] at hstage
  obtain ⟨hcurrent, hnil, hclear, hends⟩ := hstage
  rw [hnil] at hreturns
  have hsuffix : p'.tokens <:+ p.tokens := htokens' ▸ htokens
  have hspaced := h.spaced.suffix htokens
  refine h.opens hcurrent hsuffix ?_ ?_ (hclear.follows hends (htokens.subset List.mem_cons_self))
    (hclear.suffix hsuffix) hreturns ⟨rfl, nofun⟩
  · rw [htokens']
    exact (Seen.head t ts).of_suffix htokens
  · rw [htokens']
    exact fun u hu => hspaced.start_le hu

/-- The end of the current document at a token. -/
private theorem ends (h : Tracks cs b p) (hplace : p.place = .documentEnd)
    (htokens : p.tokens = t :: ts) (hts : p'.tokens <:+ p.tokens) :
    ∃ d earlier, (Builder.step cs b ⟨.documentEnd, t.extent⟩).documents = d :: earlier ∧
      (Builder.step cs b ⟨.documentEnd, t.extent⟩).current? = none ∧ p.returns = [] ∧
      Clear cs earlier p.tokens ∧ d.range.start ≤ (t.span cs).start ∧
      d.range.stop = (t.span cs).stop ∧ Chained cs (d :: earlier) ∧
      (Builder.step cs b ⟨.documentEnd, t.extent⟩).Within (Reached cs p'.tokens) := by
  obtain ⟨d, hin⟩ := inDocument_of_documentEnd hplace h.stage
  have ht : t ∈ p.tokens := htokens ▸ List.mem_cons_self
  obtain ⟨d', hdocuments, hcurrent, hstart, hstop⟩ := documents_step_documentEnd hin.current
    (e := ⟨.documentEnd, t.extent⟩) rfl (h.within.mono fun _ hreached => hreached t ht)
  have hseen : Seen p.tokens p'.tokens t := by
    rw [htokens] at hts ⊢
    exact (Seen.head t ts).mono hts
  refine ⟨d', b.documents, hdocuments, hcurrent, ?_, hin.clear, hstart ▸ hin.start_le t ht, hstop,
    ⟨hstart ▸ hin.follows, h.chained⟩, ?_⟩
  · -- the end of a document is not an inner place, so it is the last one on the stack
    obtain ⟨inner, hplaces, hinner⟩ := hin.places
    cases inner with
    | nil => exact (List.cons.inj hplaces).2
    | cons q inner =>
      have hq := (hinner q List.mem_cons_self).1
      rw [← (List.cons.inj hplaces).1, hplace] at hq
      cases hq
  · exact (within_suffix h.within hts).step (e := ⟨.documentEnd, t.extent⟩)
      (h.spaced.reached_of_seen hseen)

/-- Every step of the parser keeps the invariant. There is one case for each of the moves. -/
theorem step (h : Tracks cs b p) (hmoves : p.Moves e p') : Tracks cs (Builder.step cs b e) p' := by
  cases hmoves with
  | startsStream hplace hkind htokens hplace' hreturns =>
    have hstage := h.stage
    rw [Stage, hplace] at hstage
    -- no document has started, so nothing has to be clear of the tokens
    obtain ⟨hcurrent, hnil, hdocuments⟩ := hstage
    rw [step_of_not_opens hcurrent (by rw [hkind]; rfl)]
    refine h.of_suffix htokens ?_
    rw [Stage, hplace']
    refine ⟨hcurrent, hreturns.trans hnil, ?_⟩
    rw [hdocuments]
    exact ⟨⟨by simp, by simp, by simp, by simp⟩, by simp⟩
  | opensHere t ts hplace he htokens htokens' hreturns =>
    subst he
    exact h.opensHere hplace htokens htokens' hreturns
  | opensAt t skipped hplace ht he htokens hskipped hreturns =>
    subst he
    exact h.opensAt hplace ht htokens hskipped hreturns
  | staysInside hplace hinside =>
    -- the stack grows above the place of the document end, which stays its last one
    obtain ⟨d, hin⟩ := inDocument_of_isInner hplace h.stage
    obtain ⟨-, inner, hreturns, hinner⟩ := returns_of_isInner hin hplace
    obtain ⟨t, ht, hextent, -⟩ := hinside.extent
    obtain ⟨pushed, hplaces, hpushed⟩ := hinside.returns
    refine h.stays hin hinside.suffix hinside.kind (hextent ▸ h.spaced.reached_of_seen ht)
      ⟨pushed ++ inner, ?_, List.forall_mem_append.mpr ⟨fun q hq => ?_, fun q hq => ?_⟩⟩
    · rw [hplaces, hreturns, List.append_assoc]
    · -- a place that was pushed may hold a mark of a token that was looked at
      refine ⟨(hpushed q hq).1, fun stop hstop => ?_⟩
      obtain ⟨u, hu, rfl⟩ := (hpushed q hq).2 stop hstop
      exact (h.spaced.reached_of_seen hu).2
    · exact ⟨(hinner q hq).1, fun stop hstop => ((hinner q hq).2 stop hstop).suffix hinside.suffix⟩
  | endsPair stop hplace he htokens hplace' hreturns =>
    have hinner : p.place.isInner = true := by rw [hplace]; rfl
    obtain ⟨d, hin⟩ := inDocument_of_isInner hinner h.stage
    obtain ⟨hahead, inner, hinner, hrest⟩ := returns_of_isInner hin hinner
    -- the event has the mark of its place, not the extent of a token
    have hstop := hahead.2 stop hplace
    rw [← htokens] at hstop hrest
    subst he
    refine h.stays hin (htokens ▸ List.suffix_rfl) rfl ⟨hstop, hstop⟩
      ⟨.flowSequenceEntry :: inner, ?_, List.forall_mem_cons.mpr ⟨⟨rfl, nofun⟩, hrest⟩⟩
    rw [hplace', hreturns, hinner]
    rfl
  | endsAt t hplace ht he htokens hplace' hreturns =>
    subst he
    have hsuffix : p'.tokens <:+ p.tokens := htokens ▸ List.suffix_cons t p'.tokens
    have hmarker : t.kind.isMarker = true := by rw [ht]; rfl
    have hspaced : Spaced cs (t :: p'.tokens) := htokens ▸ h.spaced
    -- the range of the document ends with the marker, and all tokens left are behind it
    obtain ⟨d, earlier, hdocuments, hcurrent, hnil, hclear, hstart, hstop, hchained, hwithin⟩ :=
      h.ends hplace htokens hsuffix
    refine ⟨h.spaced.suffix hsuffix, hwithin, hdocuments ▸ hchained, ?_⟩
    rw [Stage, hplace', hdocuments]
    rw [htokens] at hclear
    refine ⟨hcurrent, hreturns.trans hnil, hclear.cons hspaced hmarker hstart hstop, ?_⟩
    rintro e ⟨⟩
    have hwritten := hspaced.written t List.mem_cons_self hmarker
    rw [ht] at hwritten
    exact ⟨_, hstop.trans (hspaced.stop_eq t List.mem_cons_self hmarker), hwritten⟩
  | endsBefore t ts hplace ht he htokens htokens' hplace' hreturns =>
    subst he
    -- the token stays in front of the parser, and the range of the document reaches over it
    have hsame : p'.tokens = p.tokens := htokens'.trans htokens.symm
    have hsuffix : p'.tokens <:+ p.tokens := hsame ▸ List.suffix_rfl
    obtain ⟨d, earlier, hdocuments, hcurrent, hnil, hclear, hstart, hstop, hchained, hwithin⟩ :=
      h.ends hplace htokens hsuffix
    refine ⟨h.spaced.suffix hsuffix, hwithin, hdocuments ▸ hchained, ?_⟩
    rw [Stage, hplace']
    exact ⟨hcurrent, hreturns.trans hnil, d, earlier, t, ts, hdocuments, htokens', ht,
      hclear.suffix hsuffix, hstart, hstop⟩
  | endsStream hplace hkind htokens hplace' =>
    -- between documents none is open, and the last event opens none
    have hcurrent : b.current? = none := by
      have hstage := h.stage
      unfold Stage at hstage
      obtain hplace | hplace := hplace <;>
      · rw [hplace] at hstage
        exact hstage.1
    rw [step_of_not_opens hcurrent (by rw [hkind]; rfl)]
    refine h.of_suffix htokens ?_
    rw [Stage, hplace']
    exact hcurrent

/-! ## Whole runs -/

/-- The finished documents follow each other, and so does the current one. -/
def Settled (cs : List Char) (b : Builder) : Prop :=
  Chained cs b.documents ∧ ∀ d ∈ b.current?, Follows cs b.documents d.start

/-- The invariant says in particular that the documents follow each other. -/
theorem settled (h : Tracks cs b p) : Settled cs b := by
  refine ⟨h.chained, fun d hd => ?_⟩
  -- outside of documents there is nothing to show
  have hnone (hcurrent : b.current? = none) : Follows cs b.documents d.start := by
    rw [hcurrent] at hd
    cases hd
  have hstage := h.stage
  unfold Stage at hstage
  split at hstage
  · exact hnone hstage.1
  · exact hnone hstage.1
  · exact hnone hstage.1
  · exact hnone hstage
  · obtain ⟨d', hin⟩ := hstage
    have heq : d' = d := Option.some.inj (hin.current.symm.trans hd)
    exact heq ▸ hin.follows

private theorem ofTokens {tokens : TokenStream} (h : Spaced cs tokens.tokens) :
    Tracks cs .initial (.ofTokens tokens) :=
  ⟨h, Builder.within_initial, trivial, rfl, rfl, rfl⟩

/-- Every step of the parser is one of the moves; inside of a document its end is still on the
stack. -/
theorem moves_of_step (h : Tracks cs b p) (hplace : p.place ≠ .finished)
    (hstep : p.step = .ok (e, p')) : p.Moves e p' := by
  refine Parser.moves_of_step hplace (fun hinner => ?_) hstep
  obtain ⟨d, hin⟩ := inDocument_of_isInner hinner h.stage
  obtain ⟨-, inner, hreturns, -⟩ := returns_of_isInner hin hinner
  rw [hreturns]
  exact List.append_ne_nil_of_right_ne_nil inner (List.cons_ne_nil _ _)

/-- The events of `Parser.run`, up to the end or to a fault, leave the builder settled. -/
private theorem settled_run (fuel : Nat) (acc : List Event)
    (h : Tracks cs (acc.reverse.foldl (Builder.step cs) .initial) p) :
    Settled cs ((p.run fuel acc).events.foldl (Builder.step cs) .initial) := by
  induction fuel generalizing acc p with
  | zero => exact h.settled
  | succ fuel ih =>
    simp only [Parser.run]
    split
    · exact h.settled
    · next hplace =>
      split
      · exact h.settled
      · next e p' hstep =>
        -- `acc` has the newest event in front
        refine ih (e :: acc) ?_
        rw [List.reverse_cons, List.foldl_append]
        exact h.step (h.moves_of_step (by simpa using hplace) hstep)

/-- `Builder.done` ends a document that is open. -/
private theorem chained_done (h : Settled cs b) : Chained cs b.done.documents := by
  unfold Builder.done
  split
  · next d hcurrent =>
    rw [Builder.finish_eq]
    exact ⟨h.2 d hcurrent, h.1⟩
  · exact h.1

end Tracks

namespace Chained

variable {cs : List Char} {ds front back : List Document} {d next : Document}

theorem of_append (h : Chained cs (front ++ back)) : Chained cs back := by
  induction front with
  | nil => exact h
  | cons d front ih => exact ih h.2

/-- Documents start in the order of the text. -/
theorem pairwise_start (h : Chained cs ds) :
    ds.Pairwise fun d earlier => earlier.range.start ≤ d.range.start := by
  induction ds with
  | nil => exact .nil
  | cons d ds ih =>
    have hds := ih h.2
    refine List.pairwise_cons.mpr ⟨fun earlier hearlier => ?_, hds⟩
    cases ds with
    | nil => cases hearlier
    | cons last ds =>
      -- the last document in front of this one starts first, and the earlier ones in front of that
      have hlast := h.1.start_le last rfl
      obtain rfl | hearlier := List.mem_cons.mp hearlier
      · exact hlast
      · exact Nat.le_trans ((List.pairwise_cons.mp hds).1 earlier hearlier) hlast

end Chained

namespace Stream

/-- The parser starts with the tokens of a text in order. -/
theorem tracks_ofText (text : String) :
    Tracks text.toList .initial (.ofTokens (TokenStream.ofText text)) := by
  have horder := TokenStream.inOrder_ofText text
  -- the scanner stops at a null character, but offsets count from the start of the text either way
  have hspaced := horder.spaced (text.toList.dropWhile (· != '\x00'))
  rw [List.takeWhile_append_dropWhile] at hspaced
  exact Tracks.ofTokens hspaced

/-- The documents of a text follow each other. -/
theorem chained_ofText (text : String) :
    Chained text.toList (Stream.ofText text).documents.reverse := by
  have hrun := Tracks.settled_run (8 * (TokenStream.ofText text).tokens.length + 8) []
    (tracks_ofText text)
  unfold Stream.ofText
  dsimp only
  rw [Stream.ofEvents_eq_run, List.reverse_reverse]
  exact Tracks.chained_done hrun

end Stream

end PrimitiveDesk.Yaml
