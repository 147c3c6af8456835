import PrimitiveDesk.Proofs.Yaml.BuilderStep
import PrimitiveDesk.Proofs.Yaml.Reads

/-!
# What a step of the parser does

A step of the parser opens a document, ends one, or goes on inside of one. A step inside of a
document gives an event at a token that it looks at, and leaves the places outside of the current
node on the stack of places as they are (`Parser.Inside`). A mapping starts where a token stands
with which one may start.

`Parser.Moves` lists all steps, and `Parser.moves_of_step` says that the list is complete. There is
one lemma for each function of the parser. Most put a step together from the same parts: tokens are
used, a place to return to is noted, and then a node is read (`Parser.inside_node`) or the parser
goes to another place.
-/

namespace PrimitiveDesk.Yaml

open Cursor

/-- Whether a place is inside of a document, in front of its end. -/
def Place.isInner : Place → Bool
  | streamStart => false
  | implicitDocumentStart => false
  | documentStart => false
  | documentEnd => false
  | finished => false
  | _ => true

/-- Whether a token may stand in front of a document's start marker, outside of documents. -/
def TokenKind.isSkipped : TokenKind → Bool
  | documentEnd => true
  | versionDirective => true
  | tagDirective _ _ => true
  | _ => false

/-- Whether a mapping may start with an event: one that is written there, or one that an alias
repeats. -/
def EventKind.bringsMapping : EventKind → Bool
  | .alias _ => true
  | .mappingStart _ => true
  | _ => false

/-- The token is the first one of those left, or stands in front of them. -/
def Seen (ts rest : List Token) (t : Token) : Prop :=
  ∃ front back, ts = front ++ t :: back ∧ rest <:+ t :: back

namespace Seen

variable {ts ts' rest rest' : List Token} {t : Token}

theorem head (t : Token) (ts : List Token) : Seen (t :: ts) (t :: ts) t :=
  ⟨[], ts, rfl, List.suffix_rfl⟩

/-- A token that is seen behind some others is seen in front of them too. -/
theorem of_suffix (h : Seen ts' rest t) (hts : ts' <:+ ts) : Seen ts rest t := by
  obtain ⟨front, back, rfl, hrest⟩ := h
  obtain ⟨first, rfl⟩ := hts
  exact ⟨first ++ front, back, (List.append_assoc _ _ _).symm, hrest⟩

theorem mono (h : Seen ts rest t) (hrest : rest' <:+ rest) : Seen ts rest' t := by
  obtain ⟨front, back, hts, hback⟩ := h
  exact ⟨front, back, hts, hrest.trans hback⟩

end Seen

/-- The place is inside of a document, and if a pair ends there, it ends with a token seen. -/
def Place.InDocument (q : Place) (ts rest : List Token) : Prop :=
  q.isInner = true ∧ ∀ stop, q = .flowPairEnd stop → ∃ t, Seen ts rest t ∧ stop = t.extent.stop

namespace Parser

variable {p p₁ p' : Parser} {e : Event} {t : Token} {ts : List Token} {q : Place}

/-- A step inside of a document. -/
structure Inside (p : Parser) (e : Event) (p' : Parser) : Prop where
  suffix : p'.tokens <:+ p.tokens
  kind : e.kind.endsDocument = false
  extent : ∃ t, Seen p.tokens p'.tokens t ∧ e.extent = t.extent ∧
    (e.kind.bringsMapping = true → t.kind.bringsMapping = true)
  returns : ∃ pushed, p'.place :: p'.returns = pushed ++ p.returns ∧
    ∀ q ∈ pushed, q.InDocument p.tokens p'.tokens

/-! ## Parts of a step -/

/-- A step may use tokens before it goes on. -/
theorem Inside.of_suffix (h : Inside p₁ e p') (hp : p₁.returns = p.returns)
    (htokens : p₁.tokens <:+ p.tokens) : Inside p e p' := by
  obtain ⟨t, ht, hextent⟩ := h.extent
  obtain ⟨pushed, hreturns, hpushed⟩ := h.returns
  refine ⟨h.suffix.trans htokens, h.kind, ⟨t, ht.of_suffix htokens, hextent⟩, pushed,
    hp ▸ hreturns, fun q hq => ⟨(hpushed q hq).1, fun stop hstop => ?_⟩⟩
  obtain ⟨u, hu, hstop⟩ := (hpushed q hq).2 stop hstop
  exact ⟨u, hu.of_suffix htokens, hstop⟩

private theorem Inside.of_advance (h : Inside p.advance e p') : Inside p e p' :=
  h.of_suffix rfl (List.drop_suffix 1 p.tokens)

/-- A step may note a place to return to. -/
theorem Inside.of_thenReturn (h : Inside (p.thenReturn q) e p')
    (hq : q.InDocument p.tokens p'.tokens) : Inside p e p' := by
  obtain ⟨pushed, hreturns, hpushed⟩ := h.returns
  refine { h with returns := ⟨pushed ++ [q], ?_, ?_⟩ }
  · rw [hreturns, List.append_assoc]
    rfl
  · refine List.forall_mem_append.mpr ⟨hpushed, fun r hr => ?_⟩
    rw [List.mem_singleton.mp hr]
    exact hq

/-- What begins with `peek` looks at the first token. -/
private theorem exists_of_peek {α : Type} {f : Token → Except ScanError α} {a : α}
    (h : p.peek >>= f = .ok a) : ∃ t ts, p.tokens = t :: ts ∧ f t = .ok a := by
  obtain ⟨t, hpeek, h⟩ := exists_of_bind_ok h
  unfold peek at hpeek
  split at hpeek
  · next u ts htokens =>
    cases hpeek
    exact ⟨t, ts, htokens, h⟩
  · cases hpeek

private theorem advance_tokens (h : p.tokens = t :: ts) : p.advance.tokens = ts := by
  rw [advance, h]
  rfl

/-- A step may give an event at the first token and `goto` a place inside of the document. -/
private theorem inside_goto (q : Place) {kind : EventKind} (htokens : p.tokens = t :: ts)
    (hq : q.InDocument p.tokens p.tokens) (hkind : kind.endsDocument = false)
    (hbrings : kind.bringsMapping = true → t.kind.bringsMapping = true) :
    Inside p ⟨kind, t.extent⟩ (p.goto q) where
  suffix := List.suffix_rfl
  kind := hkind
  extent := ⟨t, htokens ▸ Seen.head t ts, rfl, hbrings⟩
  returns := ⟨[q], rfl, fun _ hr => List.mem_singleton.mp hr ▸ hq⟩

/-- `resume` goes to the place that was noted last. -/
private theorem resume_eq (hp : p.returns ≠ []) :
    p.resume.place :: p.resume.returns = p.returns ∧ p.resume.tokens = p.tokens := by
  unfold resume
  split
  · next r rs hreturns => exact ⟨hreturns.symm, rfl⟩
  · next hreturns => exact absurd hreturns hp

/-- A step may give an event at the first token and `resume`. -/
private theorem inside_resume {kind : EventKind} (hp : p.returns ≠ [])
    (htokens : p.tokens = t :: ts) (hkind : kind.endsDocument = false)
    (hbrings : kind.bringsMapping = true → t.kind.bringsMapping = true) :
    Inside p ⟨kind, t.extent⟩ p.resume := by
  obtain ⟨hreturns, heq⟩ := resume_eq hp
  refine ⟨heq ▸ List.suffix_rfl, hkind, ⟨t, ?_, rfl, hbrings⟩, [], hreturns, by simp⟩
  rw [heq, htokens]
  exact Seen.head t ts

/-- A step may use a token behind its event. -/
private theorem Inside.advance (h : Inside p e p') : Inside p e p'.advance := by
  have hdrop : p'.advance.tokens <:+ p'.tokens := List.drop_suffix 1 p'.tokens
  obtain ⟨t, ht, hextent⟩ := h.extent
  obtain ⟨pushed, hreturns, hpushed⟩ := h.returns
  refine ⟨hdrop.trans h.suffix, h.kind, ⟨t, ht.mono hdrop, hextent⟩, pushed, hreturns,
    fun q hq => ⟨(hpushed q hq).1, fun stop hstop => ?_⟩⟩
  obtain ⟨u, hu, hstop⟩ := (hpushed q hq).2 stop hstop
  exact ⟨u, hu.mono hdrop, hstop⟩

/-! ## Nodes -/

/-- `properties` uses an anchor and a tag, or one of them, or none. -/
private theorem properties_spec {anchor : Nat} {named : Bool}
    (h : p.properties = .ok (anchor, named, p')) :
    p'.tokens <:+ p.tokens ∧ p'.returns = p.returns := by
  have hone : p.advance.tokens <:+ p.tokens := List.drop_suffix 1 p.tokens
  have htwo : p.advance.advance.tokens <:+ p.tokens :=
    (List.drop_suffix 1 p.advance.tokens).trans hone
  simp only [properties] at h
  obtain ⟨t, -, h⟩ := exists_of_bind_ok h
  split at h
  · -- an anchor, then perhaps a tag
    obtain ⟨u, -, h⟩ := exists_of_bind_ok h
    split at h
    · obtain ⟨-, -, h⟩ := exists_of_bind_ok h
      cases h
      exact ⟨htwo, rfl⟩
    · cases h
      exact ⟨hone, rfl⟩
  · -- a tag, then perhaps an anchor
    obtain ⟨-, -, h⟩ := exists_of_bind_ok h
    obtain ⟨u, -, h⟩ := exists_of_bind_ok h
    split at h
    · cases h
      exact ⟨htwo, rfl⟩
    · cases h
      exact ⟨hone, rfl⟩
  · cases h
    exact ⟨List.suffix_rfl, rfl⟩

/-- `node` is a step inside of a document. -/
theorem inside_node {block indentless : Bool} (hp : p.returns ≠ [])
    (h : p.node block indentless = .ok (e, p')) : Inside p e p' := by
  simp only [node] at h
  obtain ⟨t, ts, htokens, h⟩ := exists_of_peek h
  split at h
  · next name halias =>
    -- an alias is the whole node
    split at h
    · cases h
      exact (inside_resume hp htokens rfl fun _ => by rw [halias]; rfl).advance
    · simp at h
  · -- the properties come first, and the token behind them decides what the node is
    obtain ⟨⟨anchor, named, p₁⟩, hproperties, h⟩ := exists_of_bind_ok h
    obtain ⟨hsuffix, hreturns⟩ := properties_spec hproperties
    obtain ⟨u, us, htokens, h⟩ := exists_of_peek h
    have hp₁ : p₁.returns ≠ [] := hreturns ▸ hp
    refine Inside.of_suffix ?_ hreturns hsuffix
    have hgoto {q : Place} {k : EventKind} (h : (p₁.goto q).emit u.extent k = .ok (e, p'))
        (hq : q.InDocument p₁.tokens p₁.tokens) (hk : k.endsDocument = false)
        (hbrings : k.bringsMapping = true → u.kind.bringsMapping = true) : Inside p₁ e p' := by
      cases h
      exact inside_goto q htokens hq hk hbrings
    -- properties alone make an empty scalar
    have hunexpected
        (h : (if named then p₁.resume.emit u.extent (.scalar unwrittenText .plain anchor)
          else fail u.extent.start .nodeContent) = .ok (e, p')) : Inside p₁ e p' := by
      split at h
      · cases h
        exact inside_resume hp₁ htokens rfl (by nofun)
      · simp at h
    dsimp only at h
    split at h
    · split at h
      · exact hgoto h ⟨rfl, nofun⟩ rfl nofun
      · exact hunexpected h
    · cases h
      exact (inside_resume hp₁ htokens rfl (by nofun)).advance
    · exact hgoto h ⟨rfl, nofun⟩ rfl nofun
    · next hkind => exact hgoto h ⟨rfl, nofun⟩ rfl fun _ => by rw [hkind]; rfl
    · split at h
      · exact hgoto h ⟨rfl, nofun⟩ rfl nofun
      · exact hunexpected h
    · next hkind =>
      split at h
      · exact hgoto h ⟨rfl, nofun⟩ rfl fun _ => by rw [hkind]; rfl
      · exact hunexpected h
    · exact hunexpected h

private theorem thenReturn_returns_ne_nil (p : Parser) (q : Place) :
    (p.thenReturn q).returns ≠ [] :=
  List.cons_ne_nil _ _

/-- `node` is a step inside of a document also if a place to return to was noted. -/
private theorem inside_thenReturn_node {block indentless : Bool}
    (h : (p.thenReturn q).node block indentless = .ok (e, p'))
    (hq : q.InDocument p.tokens p'.tokens) : Inside p e p' :=
  (inside_node (thenReturn_returns_ne_nil p q) h).of_thenReturn hq

/-- A step may look behind the first token, and give an empty node or read the node there. -/
private theorem inside_behind {stops : Token → Bool} {block indentless : Bool} (q : Place)
    (htokens : p.tokens = t :: ts) (hq : ∀ ts rest, q.InDocument ts rest)
    (h : (p.advance.peek >>= fun u =>
      if stops u then (p.advance.goto q).emitUnwritten t.extent
      else (p.advance.thenReturn q).node block indentless) = .ok (e, p')) : Inside p e p' := by
  obtain ⟨u, -, h⟩ := exists_of_bind_ok h
  split at h
  · cases h
    exact (inside_goto q htokens (hq _ _) rfl (by nofun)).advance
  · exact (inside_thenReturn_node h (hq _ _)).of_advance

/-! ## Block collections -/

private theorem inside_blockSequenceEntry (hp : p.returns ≠ [])
    (h : p.blockSequenceEntry = .ok (e, p')) : Inside p e p' := by
  simp only [blockSequenceEntry] at h
  obtain ⟨t, ts, htokens, h⟩ := exists_of_peek h
  split at h
  · cases h
    exact (inside_resume hp htokens rfl (by nofun)).advance
  · exact inside_behind .blockSequenceEntry htokens (fun _ _ => ⟨rfl, nofun⟩) h
  · simp at h

/-- `indentlessSequenceEntry` is one, without a token of its own at the end of the sequence. -/
private theorem inside_indentlessSequenceEntry (hp : p.returns ≠ [])
    (h : p.indentlessSequenceEntry = .ok (e, p')) : Inside p e p' := by
  simp only [indentlessSequenceEntry] at h
  obtain ⟨t, ts, htokens, h⟩ := exists_of_peek h
  split at h
  · exact inside_behind .indentlessSequenceEntry htokens (fun _ _ => ⟨rfl, nofun⟩) h
  · cases h
    exact inside_resume hp htokens rfl (by nofun)

private theorem inside_blockMappingKey (hp : p.returns ≠ [])
    (h : p.blockMappingKey = .ok (e, p')) : Inside p e p' := by
  simp only [blockMappingKey] at h
  obtain ⟨t, ts, htokens, h⟩ := exists_of_peek h
  split at h
  · -- behind the token of the key stands a node, or nothing
    obtain ⟨u, us, htokens, h⟩ := exists_of_peek h
    split at h
    · cases h
      exact (inside_goto .blockMappingValue htokens ⟨rfl, nofun⟩ (by rfl) (by nofun)).of_advance
    · exact (inside_thenReturn_node h ⟨rfl, nofun⟩).of_advance
  · cases h
    exact inside_goto .blockMappingValue htokens ⟨rfl, nofun⟩ (by rfl) (by nofun)
  · cases h
    exact (inside_resume hp htokens rfl (by nofun)).advance
  · simp at h

private theorem inside_blockMappingValue (h : p.blockMappingValue = .ok (e, p')) :
    Inside p e p' := by
  simp only [blockMappingValue] at h
  obtain ⟨t, ts, htokens, h⟩ := exists_of_peek h
  split at h
  · exact inside_behind .blockMappingKey htokens (fun _ _ => ⟨rfl, nofun⟩) h
  · cases h
    exact inside_goto .blockMappingKey htokens ⟨rfl, nofun⟩ (by rfl) (by nofun)

/-! ## Flow collections -/

/-- `flowEntry` is a step inside of a document, with a pair where a key stands in a sequence. -/
private theorem inside_flowEntry (hp : p.returns ≠ []) (h : p.flowEntry = .ok (e, p')) :
    Inside p e p' := by
  simp only [flowEntry] at h
  obtain ⟨t, ts, htokens, h⟩ := exists_of_peek h
  split at h
  · cases h
    exact (inside_resume hp htokens rfl (by nofun)).advance
  · next hkind =>
    cases h
    have hbrings : t.kind.bringsMapping = true := by rw [hkind]; rfl
    exact (inside_goto .flowPairKey htokens ⟨rfl, nofun⟩ (by rfl) fun _ => hbrings).advance
  · exact inside_thenReturn_node h ⟨rfl, nofun⟩

/-- `flowSequenceEntry` uses a comma, if the entry is not the first one. -/
private theorem inside_flowSequenceEntry {first : Bool} (hp : p.returns ≠ [])
    (h : p.flowSequenceEntry first = .ok (e, p')) : Inside p e p' := by
  simp only [flowSequenceEntry] at h
  obtain ⟨t, ts, htokens, h⟩ := exists_of_peek h
  split at h
  · cases h
    exact (inside_resume hp htokens rfl (by nofun)).advance
  · split at h
    · exact inside_flowEntry hp h
    · exact (inside_flowEntry (p := p.advance) hp h).of_advance
  · split at h
    · exact inside_flowEntry hp h
    · simp at h

private theorem inside_flowPairKey (h : p.flowPairKey = .ok (e, p')) : Inside p e p' := by
  simp only [flowPairKey] at h
  obtain ⟨t, ts, htokens, h⟩ := exists_of_peek h
  split at h
  · cases h
    exact (inside_goto .flowPairValue htokens ⟨rfl, nofun⟩ (by rfl) (by nofun)).advance
  · exact inside_thenReturn_node h ⟨rfl, nofun⟩

/-- A pair in a flow sequence ends with the first token of its value. -/
private theorem inDocument_flowPairEnd {ts rest : List Token} (h : Seen ts rest t) :
    (Place.flowPairEnd t.extent.stop).InDocument ts rest := by
  refine ⟨rfl, fun stop hstop => ⟨t, h, ?_⟩⟩
  cases hstop
  rfl

/-- `flowPairValue` notes where the pair ends, which is with a token that is seen. -/
private theorem inside_flowPairValue (h : p.flowPairValue = .ok (e, p')) : Inside p e p' := by
  simp only [flowPairValue] at h
  obtain ⟨t, ts, htokens, h⟩ := exists_of_peek h
  split at h
  · obtain ⟨u, us, hus, h⟩ := exists_of_peek h
    -- the pair ends with the token behind the colon
    have hseen : Seen p.advance.tokens p.advance.tokens u := hus ▸ Seen.head u us
    split at h
    · cases h
      exact (inside_goto _ hus (inDocument_flowPairEnd hseen) rfl (by nofun)).of_advance
    · have hnode := inside_node (thenReturn_returns_ne_nil _ _) h
      exact (hnode.of_thenReturn (inDocument_flowPairEnd (hseen.mono hnode.suffix))).of_advance
  · cases h
    exact inside_goto _ htokens (inDocument_flowPairEnd (htokens ▸ Seen.head t ts)) rfl (by nofun)

/-- `flowKey` is given the extent of a token that was looked at before, and may end the mapping with
it. -/
private theorem inside_flowKey (hp : p.returns ≠ []) (hsuffix : p.tokens <:+ t :: ts)
    (h : p.flowKey t.extent = .ok (e, p')) : Inside { p with tokens := t :: ts } e p' := by
  have hweak (h : Inside p e p') : Inside { p with tokens := t :: ts } e p' :=
    h.of_suffix rfl hsuffix
  simp only [flowKey] at h
  obtain ⟨u, us, hus, h⟩ := exists_of_peek h
  split at h
  · obtain ⟨v, vs, hvs, h⟩ := exists_of_peek h
    refine hweak (Inside.of_advance ?_)
    split at h
    · cases h
      exact inside_goto .flowMappingValue hvs ⟨rfl, nofun⟩ rfl (by nofun)
    · exact inside_thenReturn_node h ⟨rfl, nofun⟩
  · cases h
    exact hweak (inside_goto .flowMappingValue hus ⟨rfl, nofun⟩ rfl (by nofun))
  · cases h
    -- behind a comma the event has the extent of the comma, not of the closing brace
    obtain ⟨hreturns, heq⟩ := resume_eq hp
    have hadvance : p.resume.advance.tokens <:+ t :: ts := by
      rw [advance, heq]
      exact (List.drop_suffix 1 p.tokens).trans hsuffix
    exact ⟨hadvance, rfl, ⟨t, (Seen.head t ts).mono hadvance, rfl, nofun⟩, [], hreturns, by simp⟩
  · exact hweak (inside_thenReturn_node h ⟨rfl, nofun⟩)

/-- `flowMappingKey` uses a comma, if the key is not the first one. -/
private theorem inside_flowMappingKey {first : Bool} (hp : p.returns ≠ [])
    (h : p.flowMappingKey first = .ok (e, p')) : Inside p e p' := by
  simp only [flowMappingKey] at h
  obtain ⟨t, ts, htokens, h⟩ := exists_of_peek h
  -- a comma may be used before the key, but the extent is that of the first token
  have hkey {r : Parser} (hr : r.returns = p.returns) (hsuffix : r.tokens <:+ p.tokens)
      (h : r.flowKey t.extent = .ok (e, p')) : Inside p e p' := by
    rw [htokens] at hsuffix
    exact (inside_flowKey (hr ▸ hp) hsuffix h).of_suffix hr (htokens ▸ List.suffix_rfl)
  have hdrop : p.advance.tokens <:+ p.tokens := List.drop_suffix 1 p.tokens
  split at h
  · cases h
    exact (inside_resume hp htokens rfl (by nofun)).advance
  · split at h
    · exact hkey rfl List.suffix_rfl h
    · exact hkey (r := p.advance) rfl hdrop h
  · split at h
    · exact hkey rfl List.suffix_rfl h
    · simp at h

private theorem inside_flowMappingValue {empty : Bool}
    (h : p.flowMappingValue empty = .ok (e, p')) :
    Inside p e p' := by
  simp only [flowMappingValue] at h
  obtain ⟨t, ts, htokens, h⟩ := exists_of_peek h
  split at h
  · cases h
    exact inside_goto .flowMappingKey htokens ⟨rfl, nofun⟩ (by rfl) (by nofun)
  · split at h
    · exact inside_behind .flowMappingKey htokens (fun _ _ => ⟨rfl, nofun⟩) h
    · cases h
      exact inside_goto .flowMappingKey htokens ⟨rfl, nofun⟩ (by rfl) (by nofun)

/-! ## Documents -/

/-- What a step of the parser does. -/
inductive Moves (p : Parser) (e : Event) (p' : Parser) : Prop where
  /-- The stream starts. -/
  | startsStream (hplace : p.place = .streamStart) (hkind : e.kind = .streamStart)
      (htokens : p'.tokens <:+ p.tokens) (hplace' : p'.place = .implicitDocumentStart)
      (hreturns : p'.returns = p.returns)
  /-- A document starts with a token of its content. -/
  | opensHere (t : Token) (ts : List Token) (hplace : p.place = .implicitDocumentStart)
      (he : e = ⟨.documentStart, t.extent⟩) (htokens : t :: ts <:+ p.tokens)
      (htokens' : p'.tokens = t :: ts)
      (hreturns : p'.place :: p'.returns = .blockNode :: .documentEnd :: p.returns)
  /-- A document starts with its marker, behind end markers and directives. -/
  | opensAt (t : Token) (skipped : List Token)
      (hplace : p.place = .implicitDocumentStart ∨ p.place = .documentStart)
      (ht : t.kind = .documentStart) (he : e = ⟨.documentStart, t.extent⟩)
      (htokens : p.tokens = skipped ++ t :: p'.tokens)
      (hskipped : ∀ u ∈ skipped, u.kind.isSkipped = true)
      (hreturns : p'.place :: p'.returns = .documentContent :: .documentEnd :: p.returns)
  /-- The current document goes on. -/
  | staysInside (hplace : p.place.isInner = true) (hinside : Inside p e p')
  /-- A pair in a flow sequence ends. -/
  | endsPair (stop : Mark) (hplace : p.place = .flowPairEnd stop)
      (he : e = ⟨.mappingEnd, .empty stop⟩) (htokens : p'.tokens = p.tokens)
      (hplace' : p'.place = .flowSequenceEntry) (hreturns : p'.returns = p.returns)
  /-- The current document ends with its end marker. -/
  | endsAt (t : Token) (hplace : p.place = .documentEnd) (ht : t.kind = .documentEnd)
      (he : e = ⟨.documentEnd, t.extent⟩) (htokens : p.tokens = t :: p'.tokens)
      (hplace' : p'.place = .implicitDocumentStart) (hreturns : p'.returns = p.returns)
  /-- The current document ends at a token that does not belong to it. -/
  | endsBefore (t : Token) (ts : List Token) (hplace : p.place = .documentEnd)
      (ht : t.kind.isSkipped = false) (he : e = ⟨.documentEnd, t.extent⟩)
      (htokens : p.tokens = t :: ts) (htokens' : p'.tokens = t :: ts)
      (hplace' : p'.place = .documentStart) (hreturns : p'.returns = p.returns)
  /-- The stream ends. -/
  | endsStream (hplace : p.place = .implicitDocumentStart ∨ p.place = .documentStart)
      (hkind : e.kind = .streamEnd) (htokens : p'.tokens <:+ p.tokens)
      (hplace' : p'.place = .finished)

/-- `directives` uses directives only. -/
private theorem directives_spec {fuel : Nat} {versioned : Bool}
    (h : directives fuel versioned p = .ok p') :
    p'.returns = p.returns ∧
      ∃ skipped, p.tokens = skipped ++ p'.tokens ∧ ∀ u ∈ skipped, u.kind.isSkipped = true := by
  induction fuel generalizing p versioned with
  | zero =>
    cases h
    exact ⟨rfl, [], rfl, by simp⟩
  | succ fuel ih =>
    simp only [directives] at h
    obtain ⟨t, ts, htokens, h⟩ := exists_of_peek h
    -- a directive is used, and the others are left to the induction
    have hgo {versioned : Bool} {handles : List (String × String)} (ht : t.kind.isSkipped = true)
        (h : directives fuel versioned { p.advance with handles := handles } = .ok p') :
        p'.returns = p.returns ∧
          ∃ skipped, p.tokens = skipped ++ p'.tokens ∧ ∀ u ∈ skipped, u.kind.isSkipped = true := by
      obtain ⟨hreturns, skipped, hskipped, hall⟩ := ih h
      refine ⟨hreturns, t :: skipped, ?_, List.forall_mem_cons.mpr ⟨ht, hall⟩⟩
      rw [List.cons_append, ← hskipped, htokens, ← advance_tokens htokens]
    split at h
    · next hkind =>
      split at h
      · simp at h
      · exact hgo (by rw [hkind]; rfl) h
    · next hkind => exact hgo (by rw [hkind]; rfl) h
    · cases h
      exact ⟨rfl, [], rfl, by simp⟩

/-- `explicitDocument` uses directives and the marker behind them. -/
private theorem explicitDocument_spec (h : p.explicitDocument = .ok (e, p')) :
    ∃ t skipped, t.kind = .documentStart ∧ e = ⟨.documentStart, t.extent⟩ ∧
      p.tokens = skipped ++ t :: p'.tokens ∧ (∀ u ∈ skipped, u.kind.isSkipped = true) ∧
      p'.place :: p'.returns = .documentContent :: .documentEnd :: p.returns := by
  simp only [explicitDocument] at h
  obtain ⟨p₁, hdirectives, h⟩ := exists_of_bind_ok h
  obtain ⟨hreturns, skipped, hskipped, hall⟩ := directives_spec hdirectives
  obtain ⟨t, ts, htokens, h⟩ := exists_of_peek h
  split at h
  · next hkind =>
    cases h
    refine ⟨t, skipped, hkind, rfl, ?_, hall, ?_⟩
    · rw [hskipped, htokens, ← advance_tokens htokens]
      rfl
    · rw [← hreturns]
      rfl
  · simp at h

/-- `skipDocumentEnds` uses end markers only. -/
private theorem skipDocumentEnds_spec (ts : List Token) :
    ∃ skipped, ts = skipped ++ skipDocumentEnds ts ∧ ∀ u ∈ skipped, u.kind.isSkipped = true := by
  induction ts with
  | nil => exact ⟨[], rfl, by simp⟩
  | cons t ts ih =>
    obtain ⟨skipped, hskipped, hall⟩ := ih
    unfold skipDocumentEnds
    split
    · next hkind =>
      refine ⟨t :: skipped, congrArg (t :: ·) hskipped, List.forall_mem_cons.mpr ⟨?_, hall⟩⟩
      rw [eq_of_beq hkind]
      rfl
    · exact ⟨[], rfl, by simp⟩

/-- `document` opens a document, with or without a marker, or ends the stream. -/
theorem moves_document (implicit : Bool)
    (hplace : p.place = if implicit then .implicitDocumentStart else .documentStart)
    (h : p.document implicit = .ok (e, p')) : Moves p e p' := by
  have hplace' : p.place = .implicitDocumentStart ∨ p.place = .documentStart := by
    cases implicit with
    | true => exact .inl hplace
    | false => exact .inr hplace
  -- end markers are passed over in front of directives, so both belong to what is skipped
  obtain ⟨skipped, hskipped, hall⟩ := skipDocumentEnds_spec p.tokens
  have hsuffix : skipDocumentEnds p.tokens <:+ p.tokens := ⟨skipped, hskipped.symm⟩
  have hexplicit (h : ({ p with tokens := skipDocumentEnds p.tokens } : Parser).explicitDocument =
      .ok (e, p')) : Moves p e p' := by
    obtain ⟨t, more, ht, he, htokens, hmore, hreturns⟩ := explicitDocument_spec h
    refine .opensAt t (skipped ++ more) hplace' ht he ?_ ?_ hreturns
    · rw [List.append_assoc, ← htokens]
      exact hskipped
    · exact List.forall_mem_append.mpr ⟨hall, hmore⟩
  simp only [document] at h
  obtain ⟨t, ts, htokens, h⟩ := exists_of_peek h
  split at h
  · -- the stream has ended
    cases h
    exact .endsStream hplace' rfl ((List.drop_suffix 1 _).trans hsuffix) rfl
  · exact hexplicit h
  · exact hexplicit h
  · exact hexplicit h
  · split at h
    · next himplicit =>
      cases h
      rw [if_pos himplicit] at hplace
      exact .opensHere t ts hplace rfl (htokens ▸ hsuffix) htokens rfl
    · exact hexplicit h

/-- `documentContent` reads a node, or gives an empty one in front of what ends the document. -/
private theorem inside_documentContent (hp : p.returns ≠ []) (h : p.documentContent = .ok (e, p')) :
    Inside p e p' := by
  simp only [documentContent] at h
  obtain ⟨t, ts, htokens, h⟩ := exists_of_peek h
  have hunwritten (h : p.resume.emitUnwritten t.extent = .ok (e, p')) : Inside p e p' := by
    cases h
    exact inside_resume hp htokens rfl (by nofun)
  split at h
  · exact hunwritten h
  · exact hunwritten h
  · exact hunwritten h
  · exact hunwritten h
  · exact hunwritten h
  · exact inside_node hp h

/-- `documentEnd` ends the document at its marker or in front of the next one. -/
theorem moves_documentEnd (hplace : p.place = .documentEnd) (h : p.documentEnd = .ok (e, p')) :
    Moves p e p' := by
  simp only [documentEnd] at h
  obtain ⟨t, ts, htokens, h⟩ := exists_of_peek h
  split at h
  · next hkind =>
    cases h
    exact .endsAt t hplace hkind rfl (htokens.trans (advance_tokens htokens ▸ rfl)) rfl rfl
  · simp at h
  · simp at h
  · next hend hversion htag =>
    cases h
    -- the kinds that are skipped in front of a document are those of the other branches
    refine .endsBefore t ts hplace ?_ rfl htokens htokens rfl rfl
    cases hkind : t.kind with
    | documentEnd => exact absurd hkind hend
    | versionDirective => exact absurd hkind hversion
    | tagDirective handle head => exact absurd hkind (htag handle head)
    | _ => rfl

/-- Every `step` is one of those listed, if the parser knows where to go on behind the current
node. -/
theorem moves_of_step (hfinished : p.place ≠ .finished)
    (hp : p.place.isInner = true → p.returns ≠ []) (h : p.step = .ok (e, p')) : Moves p e p' := by
  -- the end of a pair is an inner place too, but its event has the extent of no token
  have hinside (hplace : p.place.isInner = true) (h : p.returns ≠ [] → Inside p e p') :
      Moves p e p' :=
    .staysInside hplace (h (hp hplace))
  unfold step at h
  cases hplace : p.place <;> rw [hplace] at h hinside <;> dsimp only at h
  case streamStart =>
    obtain ⟨t, -, h⟩ := exists_of_bind_ok h
    cases h
    exact .startsStream hplace rfl (List.drop_suffix 1 p.tokens) rfl rfl
  case implicitDocumentStart => exact moves_document true hplace h
  case documentStart => exact moves_document false hplace h
  case documentContent => exact hinside rfl fun hp => inside_documentContent hp h
  case documentEnd => exact moves_documentEnd hplace h
  case blockNode => exact hinside rfl fun hp => inside_node hp h
  case blockSequenceFirstEntry =>
    exact hinside rfl fun hp => (inside_blockSequenceEntry (p := p.advance) hp h).of_advance
  case blockSequenceEntry => exact hinside rfl fun hp => inside_blockSequenceEntry hp h
  case indentlessSequenceEntry => exact hinside rfl fun hp => inside_indentlessSequenceEntry hp h
  case blockMappingFirstKey =>
    exact hinside rfl fun hp => (inside_blockMappingKey (p := p.advance) hp h).of_advance
  case blockMappingKey => exact hinside rfl fun hp => inside_blockMappingKey hp h
  case blockMappingValue => exact hinside rfl fun _ => inside_blockMappingValue h
  case flowSequenceFirstEntry =>
    exact hinside rfl fun hp => (inside_flowSequenceEntry (p := p.advance) hp h).of_advance
  case flowSequenceEntry => exact hinside rfl fun hp => inside_flowSequenceEntry hp h
  case flowPairKey => exact hinside rfl fun _ => inside_flowPairKey h
  case flowPairValue => exact hinside rfl fun _ => inside_flowPairValue h
  case flowPairEnd stop =>
    cases h
    exact .endsPair stop hplace rfl rfl rfl rfl
  case flowMappingFirstKey =>
    exact hinside rfl fun hp => (inside_flowMappingKey (p := p.advance) hp h).of_advance
  case flowMappingKey => exact hinside rfl fun hp => inside_flowMappingKey hp h
  case flowMappingValue => exact hinside rfl fun _ => inside_flowMappingValue h
  case flowMappingEmptyValue => exact hinside rfl fun _ => inside_flowMappingValue h
  case finished => exact absurd hplace hfinished

end Parser

end PrimitiveDesk.Yaml
