import PrimitiveDesk.Proofs.Yaml.DocumentRanges
import PrimitiveDesk.Proofs.Yaml.EveryNode

/-!
# Where mappings start

A mapping in a document starts with a character of the text that is no blank: with a brace, with the
first character of its first key, or with the question mark or the colon in front of it; what an
alias copies starts with the alias. The scanner knows this of its tokens. Here it is followed
through the events (`EventStream.endsWord_ofText`) to the nodes of the documents
(`Stream.mappingsAt_ofText`), and to the values that are looked up in them (`Node.MappingsAt.get?`).
-/

namespace PrimitiveDesk.Yaml

open Text

/-! ## Events -/

namespace Parser

variable {p p' : Parser} {e : Event}

/-- A move of the parser goes on with the last tokens. -/
private theorem Moves.suffix (h : p.Moves e p') : p'.tokens <:+ p.tokens := by
  cases h with
  | startsStream hplace hkind htokens hplace' hreturns => exact htokens
  | opensHere t ts hplace he htokens htokens' hreturns => exact htokens' ▸ htokens
  | opensAt t skipped hplace ht he htokens hskipped hreturns =>
    rw [htokens]
    exact (List.suffix_cons t p'.tokens).trans (List.suffix_append skipped _)
  | staysInside hplace hinside => exact hinside.suffix
  | endsPair stop hplace he htokens hplace' hreturns => exact htokens ▸ List.suffix_rfl
  | endsAt t hplace ht he htokens hplace' hreturns => exact htokens ▸ List.suffix_cons t p'.tokens
  | endsBefore t ts hplace ht he htokens htokens' hplace' hreturns =>
    exact htokens'.trans htokens.symm ▸ List.suffix_rfl
  | endsStream hplace hkind htokens hplace' => exact htokens

/-- An event with which a mapping may start has the extent of a token with which one may. -/
private theorem Moves.exists_token (h : p.Moves e p') (hbrings : e.kind.bringsMapping = true) :
    ∃ t ∈ p.tokens, t.kind.bringsMapping = true ∧ e.extent = t.extent := by
  cases h with
  | staysInside hplace hinside =>
    obtain ⟨t, ⟨front, back, htokens, -⟩, hextent, hkind⟩ := hinside.extent
    exact ⟨t, by simp [htokens], hkind hbrings, hextent⟩
  | startsStream hplace hkind => simp [hkind, EventKind.bringsMapping] at hbrings
  | endsStream hplace hkind => simp [hkind, EventKind.bringsMapping] at hbrings
  | opensHere t ts hplace he => simp [he, EventKind.bringsMapping] at hbrings
  | opensAt t skipped hplace ht he => simp [he, EventKind.bringsMapping] at hbrings
  | endsPair stop hplace he => simp [he, EventKind.bringsMapping] at hbrings
  | endsAt t hplace ht he => simp [he, EventKind.bringsMapping] at hbrings
  | endsBefore t ts hplace ht he => simp [he, EventKind.bringsMapping] at hbrings

end Parser

/-- A mapping that an event may bring in starts with one of the tokens. -/
def Event.StartsWith (ts : List Token) (e : Event) : Prop :=
  e.kind.bringsMapping = true → ∃ t ∈ ts, t.kind.bringsMapping = true ∧ e.extent = t.extent

/-- All events of `Parser.run` up to the end or to a fault start with tokens. -/
private theorem Tracks.startsWith_run {cs : List Char} {ts : List Token} {p : Parser} (fuel : Nat)
    (acc : List Event) (h : Tracks cs (acc.reverse.foldl (Builder.step cs) .initial) p)
    (hsuffix : p.tokens <:+ ts) (hacc : ∀ e ∈ acc, e.StartsWith ts) :
    ∀ e ∈ (p.run fuel acc).events, e.StartsWith ts := by
  have hreverse {acc : List Event} (hacc : ∀ e ∈ acc, e.StartsWith ts) :
      ∀ e ∈ acc.reverse, e.StartsWith ts :=
    fun e he => hacc e (List.mem_reverse.mp he)
  induction fuel generalizing acc p with
  | zero => exact hreverse hacc
  | succ fuel ih =>
    simp only [Parser.run]
    split
    · exact hreverse hacc
    · next hplace =>
      split
      · exact hreverse hacc
      · next e p' hstep =>
        -- the tokens left are the last ones of all tokens, and the next step looks at these only
        have hmoves := h.moves_of_step (by simpa using hplace) hstep
        refine ih (e :: acc) ?_ (hmoves.suffix.trans hsuffix) ?_
        · rw [List.reverse_cons, List.foldl_append]
          exact h.step hmoves
        · refine List.forall_mem_cons.mpr ⟨fun hbrings => ?_, hacc⟩
          obtain ⟨t, ht, hkind, hextent⟩ := hmoves.exists_token hbrings
          exact ⟨t, hsuffix.subset ht, hkind, hextent⟩

/-- A text goes on behind a null character, but not in front of the characters before it. -/
private theorem endsWord_drop_of_takeWhile {p : Char → Bool} {cs : List Char} {i : Nat}
    (h : endsWord ((cs.takeWhile p).drop i) = false) : endsWord (cs.drop i) = false := by
  cases hdrop : (cs.takeWhile p).drop i with
  | nil =>
    rw [hdrop] at h
    cases h
  | cons c rest =>
    have hlength : i ≤ (cs.takeWhile p).length := by
      have hcount := congrArg List.length hdrop
      rw [List.length_drop, List.length_cons] at hcount
      omega
    rw [hdrop] at h
    rw [← List.takeWhile_append_dropWhile (p := p) (l := cs), List.drop_append_of_le_length hlength,
      hdrop]
    exact h

/-- The events of a text with which a mapping may start stand at characters that are no blanks. -/
theorem EventStream.endsWord_ofText (text : String) :
    ∀ e ∈ (EventStream.ofText text).events, e.kind.bringsMapping = true →
      endsWord (text.toList.drop e.extent.start.index) = false := by
  intro e he hbrings
  have hstarts := Tracks.startsWith_run (8 * (TokenStream.ofText text).tokens.length + 8) []
    (Stream.tracks_ofText text) List.suffix_rfl (List.forall_mem_nil _) e he hbrings
  obtain ⟨t, ht, hkind, hextent⟩ := hstarts
  rw [hextent]
  exact endsWord_drop_of_takeWhile
    (((TokenStream.inOrder_ofText text).written t ht).onContent hkind)

/-! ## Nodes -/

namespace Node

variable {P : Nat → Prop} {n : Node}

/-- Every mapping in the node starts at an offset with the property. -/
def MappingsAt (P : Nat → Prop) (n : Node) : Prop :=
  ∀ address m, n.part? address = some m → m.entries?.isSome → P m.span.start

private theorem mappingsAt_iff :
    n.MappingsAt P ↔ (n.entries?.isSome → P n.span.start) ∧ ∀ m ∈ n.children, m.MappingsAt P :=
  everywhere_iff

theorem MappingsAt.of_mem_items {items : List Node} {s : Span} (h : (sequence items s).MappingsAt P)
    {m : Node} (hm : m ∈ items) : m.MappingsAt P :=
  (mappingsAt_iff.mp h).2 m hm

private theorem MappingsAt.of_mem_entries {entries : Entries} {s : Span}
    (h : (mapping entries s).MappingsAt P) {e : Node × Node} (he : e ∈ entries) :
    e.2.MappingsAt P :=
  (mappingsAt_iff.mp h).2 e.2 (List.mem_flatMap.mpr ⟨e, he, by simp⟩)

mutual

/-- A value that `get?` finds in a node, also in the mappings that it merges, is in the node. -/
theorem MappingsAt.get? {key : String} {v : Node} :
    (n : Node) → n.MappingsAt P → n.get? key = some v → v.MappingsAt P
  | scalar _ _, _, hget => by simp [Node.get?] at hget
  | sequence _ _, _, hget => by simp [Node.get?] at hget
  | mapping entries s, h, hget => by
    rw [Node.get?, Option.or_eq_some_iff] at hget
    rcases hget with hwritten | ⟨-, hmerged⟩
    · obtain ⟨e, hfind, rfl⟩ := Option.map_eq_some_iff.mp hwritten
      exact h.of_mem_entries (List.mem_of_find?_eq_some hfind)
    · exact MappingsAt.merged? entries (fun e he => h.of_mem_entries he) hmerged

/-- A value that `merged?` finds is in one of the merged mappings. -/
private theorem MappingsAt.merged? {key : String} {v : Node} :
    (entries : Entries) → (∀ e ∈ entries, e.2.MappingsAt P) → merged? key entries = some v →
      v.MappingsAt P
  | [], _, hget => by simp [Node.merged?] at hget
  | (k, w) :: rest, h, hget => by
    obtain ⟨hw, hrest⟩ := List.forall_mem_cons.mp h
    unfold Node.merged? at hget
    split at hget
    · rw [Option.or_eq_some_iff] at hget
      rcases hget with hget | ⟨-, hget⟩
      · -- one mapping is merged, or each one in a sequence
        cases w with
        | scalar v s => exact MappingsAt.get? (scalar v s) hw hget
        | sequence items s => exact MappingsAt.firstOf? items (fun m hm => hw.of_mem_items hm) hget
        | mapping entries s => exact MappingsAt.get? (mapping entries s) hw hget
      · exact MappingsAt.merged? rest hrest hget
    · exact MappingsAt.merged? rest hrest hget

/-- A value that `firstOf?` finds is in one of the items. -/
private theorem MappingsAt.firstOf? {key : String} {v : Node} :
    (items : List Node) → (∀ m ∈ items, m.MappingsAt P) → firstOf? key items = some v →
      v.MappingsAt P
  | [], _, hget => by simp [Node.firstOf?] at hget
  | m :: rest, h, hget => by
    obtain ⟨hm, hrest⟩ := List.forall_mem_cons.mp h
    rw [Node.firstOf?, Option.or_eq_some_iff] at hget
    rcases hget with hget | ⟨-, hget⟩
    · exact MappingsAt.get? m hm hget
    · exact MappingsAt.firstOf? rest hrest hget

end

end Node

/-- Whether an open collection is a mapping. -/
def Open.isMapping : Open → Bool
  | sequence _ _ _ _ _ => false
  | mapping _ _ _ _ _ _ => true

/-- Every mapping that the builder makes starts where an event is that may bring one in. -/
private theorem Builder.eachNode_mappingsAt (cs : List Char) (P : Nat → Prop) : EachNode cs
    (fun e => e.kind.bringsMapping = true → P (spanOf cs e.extent).start)
    (fun _ n => n.entries?.isSome → P n.span.start)
    (fun _ o => o.isMapping = true → P o.start) where
  report _ h := h
  reportOpen _ h := h
  scalar _ _ := nofun
  copy {ps n anchor x} he _ := by
    -- the copy itself starts with the alias
    cases n with
    | mapping entries s => exact fun _ => he rfl
    | _ => nofun
  openSequence _ _ := nofun
  openMapping _ he _ := he rfl
  give {b o} n h := by
    have hkind : (b.give o n).2.isMapping = o.isMapping := by
      cases o with
      | sequence start flow anchor stop items => rfl
      | mapping start flow anchor stop entries key? => cases key? <;> rfl
    rw [hkind, start_give]
    exact h
  close {b o} close? hwaiting h := by
    cases o with
    | sequence start flow anchor stop items => nofun
    | mapping start flow anchor stop entries key? =>
      have hkey : key? = none := hwaiting
      subst hkey
      exact fun _ => h rfl

/-! ## Texts -/

/-- A character of the text that is no blank starts at the offset. -/
def StartsWord (cs : List Char) (o : Nat) : Prop :=
  ∃ i, o = byteOffset cs i ∧ endsWord (cs.drop i) = false

/-- Every mapping in the documents of a text starts with a character that is no blank. -/
theorem Stream.mappingsAt_ofText (text : String) :
    ∀ d ∈ (Stream.ofText text).documents, ∀ n ∈ d.root?, n.MappingsAt (StartsWord text.toList) := by
  intro d hd
  unfold Stream.ofText at hd
  dsimp only at hd
  rw [Stream.ofEvents_eq_run] at hd
  refine (Builder.eachNode_mappingsAt text.toList _).run (fun e he hbrings => ?_) d
    (List.mem_reverse.mp hd)
  exact ⟨_, rfl, EventStream.endsWord_ofText text e he hbrings⟩

end PrimitiveDesk.Yaml
