import PrimitiveDesk.Proofs.Text.CharBoundary
import PrimitiveDesk.Proofs.Yaml.CutTree

/-!
# Nodes lie inside one another

The end of a collection is not that of its events: it is the end of its last part, and a closing
bracket only moves it further. If all events end behind their starts and start one behind the other,
the spans of a document nest nevertheless, also where collections were cut off and values are
missing (`CutTree.Fits.nests`, `CutTree.Fits.part`).

An alias stands where it was written, and so do its parts, which were written elsewhere. So it lies
inside the nodes above it, but does not contain its parts: those are inside the node that it copies,
and the nodes inside a copy are left out.
-/

namespace PrimitiveDesk.Yaml

open Text Builder

/-! ## Addresses -/

/-- The node at an address, which is the place of a part of the node, then the place of a part of
that part, and so on. -/
def Node.part? : Node → List Nat → Option Node
  | n, [] => some n
  | n, i :: address => n.children[i]?.bind fun m => m.part? address

private theorem Node.part?_append (n : Node) (outer inner : List Nat) :
    n.part? (outer ++ inner) = (n.part? outer).bind fun m => m.part? inner := by
  induction outer generalizing n with
  | nil => rfl
  | cons i outer ih => simp only [List.cons_append, part?, ih, Option.bind_assoc]

/-- A node contains its parts, and they start in order. -/
structure Node.Nests (n : Node) : Prop where
  inside : ∀ m ∈ n.children, n.span.start ≤ m.span.start ∧ m.span.stop ≤ n.span.stop
  ordered : n.children.Pairwise fun m m' => m.span.start ≤ m'.span.start

/-- The events end behind their starts and start one behind the other. -/
structure Marked (cs : List Char) (es : List Event) : Prop where
  forward : ∀ e ∈ es, (spanOf cs e.extent).start ≤ (spanOf cs e.extent).stop
  ordered : (es.map fun e => (spanOf cs e.extent).start).Pairwise (· ≤ ·)

private theorem Marked.sublist {cs : List Char} {es es' : List Event} (h : Marked cs es)
    (hsub : es'.Sublist es) : Marked cs es' :=
  ⟨fun e he => h.forward e (hsub.subset he), h.ordered.sublist (hsub.map _)⟩

/-- Bytes are in the order of characters. -/
private theorem Marked.of_index {es : List Event} (cs : List Char)
    (hforward : ∀ e ∈ es, e.extent.start.index ≤ e.extent.stop.index)
    (hordered : es.Pairwise fun e e' => e.extent.start.index ≤ e'.extent.start.index) :
    Marked cs es where
  forward e he := byteOffset_le_byteOffset cs (hforward e he)
  ordered := List.pairwise_map.mpr (hordered.imp fun h => byteOffset_le_byteOffset cs h)

namespace CutTree

/-- The parts of a tree; those of an alias are not known. -/
def parts : CutTree → List CutTree
  | leaf _ => []
  | missing => []
  | collection _ parts _ => parts

/-- The part at an address. -/
def part? : CutTree → List Nat → Option CutTree
  | t, [] => some t
  | t, i :: address => t.parts[i]?.bind fun u => u.part? address

/-- The address leads into what an alias copies. -/
def InCopy (t : CutTree) (address : List Nat) : Prop :=
  ∃ outer inner u, address = outer ++ inner ∧ inner ≠ [] ∧ t.part? outer = some u ∧
    u.isAlias = true

variable {cs : List Char} {es : List Event} {t u : CutTree} {ts : List CutTree} {n m : Node}
  {nodes : List Node}

private theorem part?_append (t : CutTree) (outer inner : List Nat) :
    t.part? (outer ++ inner) = (t.part? outer).bind fun u => u.part? inner := by
  induction outer generalizing t with
  | nil => rfl
  | cons i outer ih => simp only [List.cons_append, part?, ih, Option.bind_assoc]

/-- What leads from a part into a copy leads into it from the whole tree. -/
private theorem InCopy.of_part {outer inner : List Nat} (hu : t.part? outer = some u)
    (h : u.InCopy inner) : t.InCopy (outer ++ inner) := by
  obtain ⟨front, back, v, rfl, hback, hv, halias⟩ := h
  refine ⟨outer ++ front, back, v, (List.append_assoc ..).symm, hback, ?_, halias⟩
  rw [part?_append, hu]
  exact hv

/-- What is below a copy is in the copy. -/
private theorem InCopy.append {address : List Nat} (h : t.InCopy address) (inner : List Nat) :
    t.InCopy (address ++ inner) := by
  obtain ⟨outer, rest, u, rfl, hrest, hu, halias⟩ := h
  exact ⟨outer, rest ++ inner, u, List.append_assoc .., by simp [hrest], hu, halias⟩

/-- The events of a part are among those of all parts. -/
private theorem events_sublist_partEvents (hu : u ∈ ts) : u.events.Sublist (partEvents ts) := by
  obtain ⟨front, back, rfl⟩ := List.append_of_mem hu
  rw [partEvents_append, partEvents]
  exact (List.sublist_append_left _ _).trans (List.sublist_append_right _ _)

/-! ## Nodes and their parts -/

/-- A node starts with its first event. -/
private theorem Fits.exists_events_eq_cons (h : t.Fits cs es n) (ht : t ≠ CutTree.missing) :
    ∃ e rest, t.events = e :: rest ∧ n.span.start = (spanOf cs e.extent).start := by
  cases h with
  | scalar => exact ⟨_, [], rfl, rfl⟩
  | copy hspan => exact ⟨_, [], rfl, by rw [hspan]⟩
  | unknown hspan => exact ⟨_, [], rfl, by rw [hspan]⟩
  | missing => exact absurd rfl ht
  | @collection opening ts closing? n hstart hstop hcovers hparts hmissing =>
    exact ⟨opening, _, rfl, hstart⟩

/-- A node ends behind its start. -/
private theorem Fits.start_le_stop (h : t.Fits cs es n) (hmarked : Marked cs t.events) :
    n.span.start ≤ n.span.stop := by
  cases h with
  | scalar => exact Nat.le_max_right _ _
  | copy hspan =>
    rw [hspan]
    exact hmarked.forward _ (List.mem_singleton.mpr rfl)
  | unknown hspan =>
    rw [hspan]
    exact hmarked.forward _ (List.mem_singleton.mpr rfl)
  | missing => exact Nat.le_refl _
  | collection hstart hstop hcovers hparts hmissing => exact hstop

/-- Every node among the parts has its tree. -/
private theorem exists_fits_of_mem (h : List.Forall₂ (Fits cs es) ts nodes) (hm : m ∈ nodes) :
    ∃ u ∈ ts, u.Fits cs es m := by
  induction h with
  | nil => cases hm
  | @cons u n ts nodes hu _ ih =>
    rcases List.mem_cons.mp hm with rfl | hm
    · exact ⟨u, List.mem_cons_self, hu⟩
    · obtain ⟨v, hv, hfits⟩ := ih hm
      exact ⟨v, List.mem_cons_of_mem u hv, hfits⟩

/-- The starts of nodes stand among the starts of their events, in the same order. -/
private theorem starts_sublist (h : List.Forall₂ (Fits cs es) ts nodes) (hpresent : missing ∉ ts) :
    (nodes.map fun m => m.span.start).Sublist
      ((partEvents ts).map fun e => (spanOf cs e.extent).start) := by
  induction h with
  | nil => exact .slnil
  | @cons u n ts nodes hu _ ih =>
    have hne : u ≠ missing := fun heq => hpresent (heq ▸ List.mem_cons_self)
    have hrest := ih fun hmem => hpresent (List.mem_cons_of_mem u hmem)
    obtain ⟨e, rest, hevents, hstart⟩ := hu.exists_events_eq_cons hne
    rw [partEvents, hevents, List.map_cons, hstart, List.cons_append, List.map_cons,
      List.map_append]
    exact (hrest.trans (List.sublist_append_right _ _)).cons_cons _

/-- Parts that have events start behind their collection and in order. -/
private theorem starts_of_present {opening : Event} (h : List.Forall₂ (Fits cs es) ts nodes)
    (hpresent : missing ∉ ts) (hmarked : Marked cs (opening :: partEvents ts)) :
    (∀ m ∈ nodes, (spanOf cs opening.extent).start ≤ m.span.start) ∧
      nodes.Pairwise fun m m' => m.span.start ≤ m'.span.start := by
  have hstarts := hmarked.ordered.sublist ((starts_sublist h hpresent).cons_cons _)
  obtain ⟨hopening, hordered⟩ := List.pairwise_cons.mp hstarts
  exact ⟨fun m hm => hopening _ (List.mem_map_of_mem hm), List.pairwise_map.mp hordered⟩

/-- All parts start behind their collection and in order, also a value that is missing. -/
private theorem starts_of_missingLast {opening : Event} (h : List.Forall₂ (Fits cs es) ts nodes)
    (hmissing : MissingLast ts nodes) (hmarked : Marked cs (opening :: partEvents ts)) :
    (∀ m ∈ nodes, (spanOf cs opening.extent).start ≤ m.span.start) ∧
      nodes.Pairwise fun m m' => m.span.start ≤ m'.span.start := by
  rcases hmissing with hpresent | ⟨front, before, key, rfl, hpresent, rfl⟩
  · exact starts_of_present h hpresent hmarked
  · -- without the missing value the lists are as above, and it starts where the last key ends
    have hsplit : before ++ [key, Node.missing key.span.stop] =
        (before ++ [key]) ++ [Node.missing key.span.stop] := by simp
    rw [hsplit] at h ⊢
    have hlength : front.length = (before ++ [key]).length := by
      have := h.length_eq
      simp only [List.length_append, List.length_cons, List.length_nil] at this ⊢
      omega
    have hfront : List.Forall₂ (Fits cs es) front (before ++ [key]) := by
      have htake := List.forall₂_take_append _ _ _ h
      rwa [← hlength, List.take_left' rfl] at htake
    have hmarked' : Marked cs (opening :: partEvents front) := by
      rw [partEvents_append] at hmarked
      exact hmarked.sublist ((List.sublist_append_left _ _).cons_cons _)
    obtain ⟨hopening, hordered⟩ := starts_of_present hfront hpresent hmarked'
    have hkey : key.span.start ≤ key.span.stop := by
      obtain ⟨u, hu, hfits⟩ :=
        exists_fits_of_mem hfront (List.mem_append_right _ List.mem_cons_self)
      exact hfits.start_le_stop (hmarked'.sublist (.cons _ (events_sublist_partEvents hu)))
    -- so all others start in front of it
    have hlast : ∀ m ∈ before ++ [key], m.span.start ≤ key.span.stop := by
      intro m hm
      rcases List.mem_append.mp hm with hm | hm
      · have hle := (List.pairwise_append.mp hordered).2.2 m hm key (List.mem_singleton.mpr rfl)
        omega
      · rw [List.mem_singleton.mp hm]
        exact hkey
    refine ⟨?_, List.pairwise_append.mpr ⟨hordered, List.pairwise_singleton _ _, ?_⟩⟩
    · intro m hm
      rcases List.mem_append.mp hm with hm | hm
      · exact hopening m hm
      · rw [List.mem_singleton.mp hm]
        exact Nat.le_trans (hopening key (List.mem_append_right _ List.mem_cons_self)) hkey
    · intro m hm m' hm'
      rw [List.mem_singleton.mp hm']
      exact hlast m hm

/-- A node that is no alias contains its parts, and they start in order. -/
theorem Fits.nests (h : t.Fits cs es n) (halias : t.isAlias = false)
    (hmarked : Marked cs t.events) : n.Nests := by
  cases h with
  | scalar => exact ⟨nofun, .nil⟩
  | copy => cases halias
  | unknown => cases halias
  | missing => exact ⟨nofun, .nil⟩
  | @collection opening parts closing? n hstart hstop hcovers hparts hmissing =>
    have hsub : (opening :: partEvents parts).Sublist
        (CutTree.collection opening parts closing?).events :=
      (List.sublist_append_left _ _).cons_cons _
    obtain ⟨hopening, hordered⟩ := starts_of_missingLast hparts hmissing (hmarked.sublist hsub)
    refine ⟨fun m hm => ⟨?_, hcovers m hm⟩, hordered⟩
    rw [hstart]
    exact hopening m hm

/-- The node has no parts, or it has those of a node that is no alias, is told by some of the
events, and contains them. -/
def Copies (cs : List Char) (es : List Event) (n : Node) : Prop :=
  n.children = [] ∨ ∃ (v : CutTree) (m : Node), v.isAlias = false ∧ v.events <:+: es ∧
    v.Fits cs es m ∧ m.Nests ∧ n.children = m.children

/-- The parts of an alias are those of a node that is written elsewhere. -/
private theorem Fits.copies (h : t.Fits cs es n) (halias : t.isAlias = true)
    (hmarked : Marked cs es) :
    Copies cs es n := by
  cases h with
  | scalar => cases halias
  | missing => cases halias
  | collection => cases halias
  | unknown _ hchildren => exact .inl hchildren
  | @copy anchor x v m n hspan hv hevents hwritten hchildren =>
    have hnests := hwritten.nests hv (hmarked.sublist hevents.sublist)
    exact .inr ⟨v, m, hv, hevents, hwritten, hnests, hchildren⟩

/-- The parts of a node start in order, also those of an alias. -/
private theorem Fits.ordered (h : t.Fits cs es n) (hes : Marked cs es)
    (hmarked : Marked cs t.events) :
    n.children.Pairwise fun m m' => m.span.start ≤ m'.span.start := by
  cases halias : t.isAlias with
  | false => exact (h.nests halias hmarked).ordered
  | true =>
    rcases h.copies halias hes with hnone | ⟨v, m, -, -, -, hnests, hchildren⟩
    · rw [hnone]
      exact .nil
    · rw [hchildren]
      exact hnests.ordered

/-! ## Nodes and what is below them -/

/-- The part at an address outside of copies is told by the tree's part there, and lies inside the
node. -/
theorem Fits.part {address : List Nat} (h : t.Fits cs es n) (hmarked : Marked cs t.events)
    (hm : n.part? address = some m) (hcopy : ¬ t.InCopy address) :
    ∃ u, t.part? address = some u ∧ u.Fits cs es m ∧ Marked cs u.events ∧
      n.span.start ≤ m.span.start ∧ m.span.stop ≤ n.span.stop := by
  induction address generalizing t n with
  | nil =>
    cases hm
    exact ⟨t, rfl, h, hmarked, Nat.le_refl _, Nat.le_refl _⟩
  | cons i address ih =>
    obtain ⟨child, hchild, hbelow⟩ := Option.bind_eq_some_iff.mp hm
    -- only a collection has parts, but for an alias, where the address leads into the copy
    cases h with
    | scalar => cases hchild
    | missing => cases hchild
    | copy => exact absurd ⟨[], i :: address, _, rfl, nofun, rfl, rfl⟩ hcopy
    | unknown => exact absurd ⟨[], i :: address, _, rfl, nofun, rfl, rfl⟩ hcopy
    | @collection opening parts closing? n hstart hstop hcovers hparts hmissing =>
      obtain ⟨hi, hget⟩ := List.getElem?_eq_some_iff.mp hchild
      have hi' : i < parts.length := by rwa [hparts.length_eq]
      have hfits : Fits cs es parts[i] child := by
        rw [← hget]
        exact hparts.get hi' hi
      have hpart : (CutTree.collection opening parts closing?).part? [i] = some parts[i] := by
        simp [part?, CutTree.parts, hi']
      have hnests := (Fits.collection hstart hstop hcovers hparts hmissing).nests rfl hmarked
      have hsub : parts[i].events.Sublist (CutTree.collection opening parts closing?).events :=
        ((events_sublist_partEvents (List.getElem_mem hi')).trans
          (List.sublist_append_left _ _)).cons _
      obtain ⟨u, hu, hufits, humarked, hstart', hstop'⟩ :=
        ih hfits (hmarked.sublist hsub) hbelow fun hin => hcopy (InCopy.of_part hpart hin)
      have hinside := hnests.inside child (List.mem_of_getElem? hchild)
      refine ⟨u, ?_, hufits, humarked, by omega, by omega⟩
      rw [← List.singleton_append, part?_append, hpart]
      exact hu

end CutTree

/-! ## Documents -/

/-- Where the node at a part `u` of the tree stands in a document. -/
structure Placed (cs : List Char) (es : List Event) (range : DocumentRange) (u : CutTree)
    (n : Node) : Prop where
  forward : n.span.start ≤ n.span.stop
  inside : range.start ≤ n.span.start ∧ n.span.stop ≤ range.contentEnd
  ordered : n.children.Pairwise fun m m' => m.span.start ≤ m'.span.start
  covers : u.isAlias = false →
    ∀ m ∈ n.children, n.span.start ≤ m.span.start ∧ m.span.stop ≤ n.span.stop
  /-- The parts of an alias lie inside the node that it copies. -/
  copies : u.isAlias = true → CutTree.Copies cs es n

/-- Every node outside of what aliases copy lies inside the document and inside every node above it,
and its parts start in order. If it is no alias it contains its parts, and else the node that it
copies contains them. -/
def Document.Nested (cs : List Char) (es : List Event) (d : Document) (root : Node) (t : CutTree) :
    Prop :=
  ∀ address n, root.part? address = some n → ¬ t.InCopy address →
    ∃ u, t.part? address = some u ∧ Placed cs es d.range u n ∧
      ∀ offset, n.span.contains offset = true → d.contains offset = true ∧
        ∀ outer, outer <+: address →
          ∃ m, root.part? outer = some m ∧ m.span.contains offset = true

/-- If all events end behind their starts and start one behind the other, the nodes of the documents
of `Stream.ofEvents` lie inside one another and inside their document. -/
theorem Stream.nested_ofEvents (text : String) (events : List Event) (problems : List Problem)
    (hforward : ∀ e ∈ events, e.extent.start.index ≤ e.extent.stop.index)
    (hordered : events.Pairwise fun e e' => e.extent.start.index ≤ e'.extent.start.index)
    {d : Document} (hd : d ∈ (Stream.ofEvents text events problems).documents) {root : Node}
    (hroot : d.root? = some root) :
    ∃ t before opening after, events = before ++ opening :: (t.events ++ after) ∧
      opening.kind = .documentStart ∧ CutTree.Fits text.toList events t root ∧
      d.Nested text.toList events root t := by
  rw [ofEvents_eq_run, List.mem_reverse] at hd
  obtain ⟨t, before, opening, after, ht, hfits, hevents, hkind, hrange, hcontent, hstop⟩ :=
    exists_cutTree hd hroot
  have hall := Marked.of_index text.toList hforward hordered
  have hmarked : Marked text.toList (opening :: t.events) := by
    refine hall.sublist ?_
    rw [hevents]
    exact ((List.sublist_append_left _ _).cons_cons _).trans (List.sublist_append_right _ _)
  have htmarked := hmarked.sublist (List.sublist_cons_self _ _)
  have hopening : d.range.start ≤ root.span.start := by
    -- the root is the only part behind the start of the document
    have hsingle : List.Forall₂ (CutTree.Fits text.toList events) [t] [root] := .cons hfits .nil
    rw [hrange]
    exact (CutTree.starts_of_present hsingle (by simpa using ht.symm)
      (by simpa [CutTree.partEvents] using hmarked)).1 root List.mem_cons_self
  refine ⟨t, before, opening, after, hevents, hkind, hfits, ?_⟩
  intro address n hn hcopy
  obtain ⟨u, hu, hufits, humarked, hustart, hustop⟩ := hfits.part htmarked hn hcopy
  refine ⟨u, hu, ⟨hufits.start_le_stop humarked, ⟨by omega, by omega⟩,
    hufits.ordered hall humarked, fun halias => (hufits.nests halias humarked).inside,
    fun halias => hufits.copies halias hall⟩, ?_⟩
  intro offset hoffset
  simp only [Span.contains, Bool.and_eq_true, decide_eq_true_eq] at hoffset
  refine ⟨?_, ?_⟩
  · simp only [Document.contains, Bool.and_eq_true, decide_eq_true_eq]
    omega
  · -- the node is a part of the one above it, which is outside of copies as well
    rintro outer ⟨inner, rfl⟩
    rw [Node.part?_append] at hn
    obtain ⟨m, hm, hinner⟩ := Option.bind_eq_some_iff.mp hn
    obtain ⟨v, hv, hvfits, hvmarked, -, -⟩ :=
      hfits.part htmarked hm fun hin => hcopy (hin.append inner)
    obtain ⟨-, -, -, -, hmstart, hmstop⟩ :=
      hvfits.part hvmarked hinner fun hin => hcopy (CutTree.InCopy.of_part hv hin)
    refine ⟨m, hm, ?_⟩
    simp only [Span.contains, Bool.and_eq_true, decide_eq_true_eq]
    omega

/-- A sequence of an anchored sequence, its alias, and a mapping that was cut off behind a key. -/
def unclosedText : String := "- &a [x]\n- *a\n- k:"

/-- The events of `unclosedText` in front of the fault. -/
def unclosedEvents : List Event :=
  [⟨.documentStart, ⟨⟨0, 1, 0⟩, ⟨0, 1, 0⟩⟩⟩,
    ⟨.sequenceStart 0, ⟨⟨0, 1, 0⟩, ⟨1, 1, 1⟩⟩⟩,
    ⟨.sequenceStart 1, ⟨⟨5, 1, 5⟩, ⟨6, 1, 6⟩⟩⟩,
    ⟨.scalar "x" .plain 0, ⟨⟨6, 1, 6⟩, ⟨7, 1, 7⟩⟩⟩,
    ⟨.sequenceEnd, ⟨⟨7, 1, 7⟩, ⟨8, 1, 8⟩⟩⟩,
    ⟨.alias 1, ⟨⟨11, 2, 2⟩, ⟨13, 2, 4⟩⟩⟩,
    ⟨.mappingStart 0, ⟨⟨16, 3, 2⟩, ⟨16, 3, 2⟩⟩⟩,
    ⟨.scalar "k" .plain 0, ⟨⟨16, 3, 2⟩, ⟨17, 3, 3⟩⟩⟩]

/-- The root that is built from them. -/
def unclosedRoot : Node :=
  .sequence
    [.sequence [.plain "x" ⟨6, 7⟩] ⟨5, 8⟩,
      .sequence [.plain "x" ⟨6, 7⟩] ⟨11, 13⟩,
      .mapping [(.plain "k" ⟨16, 17⟩, .missing 17)] ⟨16, 17⟩]
    ⟨0, 17⟩

theorem Stream.nested_unclosedEvents :
    Stream.ofEvents unclosedText unclosedEvents [] = ⟨[⟨some unclosedRoot, ⟨0, 17, 17⟩⟩], []⟩ ∧
      ∃ t before opening after, unclosedEvents = before ++ opening :: (t.events ++ after) ∧
        opening.kind = .documentStart ∧
        CutTree.Fits unclosedText.toList unclosedEvents t unclosedRoot ∧
        Document.Nested unclosedText.toList unclosedEvents
          ⟨some unclosedRoot, ⟨0, 17, 17⟩⟩ unclosedRoot t := by
  have hstream : Stream.ofEvents unclosedText unclosedEvents [] =
      ⟨[⟨some unclosedRoot, ⟨0, 17, 17⟩⟩], []⟩ := rfl
  refine ⟨hstream, nested_ofEvents unclosedText unclosedEvents [] (by decide) (by decide) ?_ rfl⟩
  rw [hstream]
  exact List.mem_cons_self

/-- What the events behind the document's start tell. -/
def unclosedTree : CutTree :=
  .collection ⟨.sequenceStart 0, ⟨⟨0, 1, 0⟩, ⟨1, 1, 1⟩⟩⟩
    [.collection ⟨.sequenceStart 1, ⟨⟨5, 1, 5⟩, ⟨6, 1, 6⟩⟩⟩
      [.leaf ⟨.scalar "x" .plain 0, ⟨⟨6, 1, 6⟩, ⟨7, 1, 7⟩⟩⟩]
      (some ⟨.sequenceEnd, ⟨⟨7, 1, 7⟩, ⟨8, 1, 8⟩⟩⟩),
    .leaf ⟨.alias 1, ⟨⟨11, 2, 2⟩, ⟨13, 2, 4⟩⟩⟩,
    .collection ⟨.mappingStart 0, ⟨⟨16, 3, 2⟩, ⟨16, 3, 2⟩⟩⟩
      [.leaf ⟨.scalar "k" .plain 0, ⟨⟨16, 3, 2⟩, ⟨17, 3, 3⟩⟩⟩, .missing] none]
    none

/-- The alias is not inside what an alias copies, and yet its item lies in front of it. -/
theorem Stream.alias_item_outside :
    (∀ e ∈ unclosedEvents, e.extent.start.index ≤ e.extent.stop.index) ∧
      (unclosedEvents.Pairwise fun e e' => e.extent.start.index ≤ e'.extent.start.index) ∧
      Stream.ofEvents unclosedText unclosedEvents [] = ⟨[⟨some unclosedRoot, ⟨0, 17, 17⟩⟩], []⟩ ∧
      unclosedEvents.tail = unclosedTree.events ∧ ¬unclosedTree.InCopy [1] ∧
      ∃ n m, unclosedRoot.part? [1] = some n ∧ n.span = ⟨11, 13⟩ ∧ m ∈ n.children ∧
        m.span = ⟨6, 7⟩ ∧ ¬(n.span.start ≤ m.span.start ∧ m.span.stop ≤ n.span.stop) := by
  refine ⟨by decide, by decide, rfl, rfl, ?_, _, _, rfl, rfl, List.mem_cons_self, rfl, by decide⟩
  rintro ⟨outer, inner, u, heq, hinner, hu, halias⟩
  -- the address has one step, so that the part it leads into is the whole tree, no alias
  cases outer with
  | nil =>
    cases hu
    cases halias
  | cons i outer =>
    have hnil : outer ++ inner = [] := (List.cons.inj heq).2.symm
    exact hinner (List.append_eq_nil_iff.mp hnil).2

end PrimitiveDesk.Yaml
