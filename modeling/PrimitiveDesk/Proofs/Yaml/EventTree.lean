import Mathlib.Data.PNat.Defs
import PrimitiveDesk.Yaml.Builder

/-!
# Documents and their events

A document as its author sees it is a tree of scalars, collections and aliases, in which nodes may
carry anchors. `EventTree.events` tells such a tree as a list of events.

What the tree means depends on the nodes that were completed before: an alias stands for the latest
one with its anchor, and for nothing if there is none. A node is completed behind its last event, so
that an alias inside of it does not stand for it. `Means` states this meaning by rules that go along
the tree.
-/

namespace PrimitiveDesk.Yaml

open Text

/-! ## Trees -/

/-- A node of a document before its aliases are resolved, with the extents of its events. -/
inductive EventTree where
  | scalar (anchor? : Option ℕ+) (text : String) (style : Style) (extent : Extent)
  | sequence (anchor? : Option ℕ+) (opening : Extent) (items : List EventTree) (closing : Extent)
  | mapping (anchor? : Option ℕ+) (opening : Extent) (entries : List (EventTree × EventTree))
      (closing : Extent)
  | alias (anchor : ℕ+) (extent : Extent)

/-- A document with the extents of its start and its end. -/
structure EventDocument where
  opening : Extent
  root? : Option EventTree
  closing : Extent

/-- The number of an anchor in an event: zero stands for none. -/
def anchorNumber : Option ℕ+ → Nat
  | none => 0
  | some anchor => anchor

mutual

/-- The events of a tree. -/
def EventTree.events : EventTree → List Event
  | .scalar anchor? text style extent => [⟨.scalar text style (anchorNumber anchor?), extent⟩]
  | .sequence anchor? opening items closing =>
    ⟨.sequenceStart (anchorNumber anchor?), opening⟩ ::
      (itemEvents items ++ [⟨.sequenceEnd, closing⟩])
  | .mapping anchor? opening entries closing =>
    ⟨.mappingStart (anchorNumber anchor?), opening⟩ ::
      (entryEvents entries ++ [⟨.mappingEnd, closing⟩])
  | .alias anchor extent => [⟨.alias anchor, extent⟩]

/-- The events of items. -/
def itemEvents : List EventTree → List Event
  | [] => []
  | t :: rest => t.events ++ itemEvents rest

/-- The events of entries, keys before values. -/
def entryEvents : List (EventTree × EventTree) → List Event
  | [] => []
  | (k, v) :: rest => k.events ++ (v.events ++ entryEvents rest)

end

/-- The events of a document. -/
def EventDocument.events (d : EventDocument) : List Event :=
  ⟨.documentStart, d.opening⟩ ::
    ((d.root?.map EventTree.events).getD [] ++ [⟨.documentEnd, d.closing⟩])

/-! ## Meaning -/

/-- The kind of a scalar that is written in a style. -/
def Style.kind : Style → ScalarKind
  | plain => .plain
  | singleQuoted => .quoted
  | doubleQuoted => .quoted
  | literal => .block
  | folded => .block

/-- The bytes of a scalar. They never end before they start. -/
def scalarSpan (cs : List Char) (e : Extent) : Span :=
  ⟨byteOffset cs e.start.index, max (byteOffset cs e.stop.index) (byteOffset cs e.start.index)⟩

/-- The bytes of an alias. -/
def aliasSpan (cs : List Char) (e : Extent) : Span :=
  ⟨byteOffset cs e.start.index, byteOffset cs e.stop.index⟩

/-- The nodes have the same value, wherever they stand: the same scalar, the same items or the same
entries. -/
inductive SameValue : Node → Node → Prop
  | scalar (value : Scalar) (s s' : Span) : SameValue (.scalar value s) (.scalar value s')
  | sequence (items : List Node) (s s' : Span) : SameValue (.sequence items s) (.sequence items s')
  | mapping (entries : Node.Entries) (s s' : Span) :
    SameValue (.mapping entries s) (.mapping entries s')

/-- Whether a scalar only stands for a value that is missing in the text: a plain `~` that is not
written there. -/
def Unwritten (cs : List Char) (text : String) (style : Style) (e : Extent) : Prop :=
  style = .plain ∧ text = unwrittenText ∧
    ∀ part, slice? cs (scalarSpan cs e) = some part → '~' ∉ part

/-- The nodes with an anchor that were completed so far, latest first. -/
abbrev Completed := List (Nat × Node)

/-- The completed nodes after one more node, which may have an anchor. -/
def Completed.add (done : Completed) (anchor? : Option ℕ+) (n : Node) : Completed :=
  match anchor? with
  | none => done
  | some anchor => ((anchor : Nat), n) :: done

mutual

/-- `Means cs done t n done' unknown`: behind the completed nodes `done`, the tree stands for the
node `n`, more nodes are completed with it, and the aliases at the spans `unknown` refer to no
completed node. The spans of collections are left open but for their start. -/
inductive Means (cs : List Char) : Completed → EventTree → Node → Completed → List Span → Prop where
  | written {done : Completed} {anchor? : Option ℕ+} {text : String} {style : Style} {e : Extent}
      (h : ¬Unwritten cs text style e) :
      Means cs done (.scalar anchor? text style e) (.scalar ⟨text, style.kind⟩ (scalarSpan cs e))
        (done.add anchor? (.scalar ⟨text, style.kind⟩ (scalarSpan cs e))) []
  | unwritten {done : Completed} {anchor? : Option ℕ+} {text : String} {style : Style}
      {e : Extent} (h : Unwritten cs text style e) :
      Means cs done (.scalar anchor? text style e) (.scalar ⟨"", style.kind⟩ (scalarSpan cs e))
        (done.add anchor? (.scalar ⟨"", style.kind⟩ (scalarSpan cs e))) []
  | sequence {done done' : Completed} {anchor? : Option ℕ+} {opening closing : Extent}
      {items : List EventTree} {nodes : List Node} {unknown : List Span} (stop : Nat)
      (h : MeansItems cs done items nodes done' unknown) :
      Means cs done (.sequence anchor? opening items closing)
        (.sequence nodes ⟨byteOffset cs opening.start.index, stop⟩)
        (done'.add anchor? (.sequence nodes ⟨byteOffset cs opening.start.index, stop⟩)) unknown
  | mapping {done done' : Completed} {anchor? : Option ℕ+} {opening closing : Extent}
      {entries : List (EventTree × EventTree)} {nodes : Node.Entries} {unknown : List Span}
      (stop : Nat) (h : MeansEntries cs done entries nodes done' unknown) :
      Means cs done (.mapping anchor? opening entries closing)
        (.mapping nodes ⟨byteOffset cs opening.start.index, stop⟩)
        (done'.add anchor? (.mapping nodes ⟨byteOffset cs opening.start.index, stop⟩)) unknown
  /-- An alias is a copy of the node that was completed last under its anchor, at its own place. -/
  | known {done : Completed} {anchor : ℕ+} {e : Extent} {n copy : Node}
      (h : done.lookup (anchor : Nat) = some n) (hvalue : SameValue n copy)
      (hspan : copy.span = aliasSpan cs e) : Means cs done (.alias anchor e) copy done []
  | unknown {done : Completed} {anchor : ℕ+} {e : Extent}
      (h : done.lookup (anchor : Nat) = none) :
      Means cs done (.alias anchor e) (.scalar ⟨"", .plain⟩ (aliasSpan cs e)) done
        [aliasSpan cs e]

/-- The meaning of items, one after the other. -/
inductive MeansItems (cs : List Char) :
    Completed → List EventTree → List Node → Completed → List Span → Prop where
  | nil {done : Completed} : MeansItems cs done [] [] done []
  | cons {done done' done'' : Completed} {t : EventTree} {rest : List EventTree} {n : Node}
      {nodes : List Node} {us vs : List Span} (head : Means cs done t n done' us)
      (tail : MeansItems cs done' rest nodes done'' vs) :
      MeansItems cs done (t :: rest) (n :: nodes) done'' (us ++ vs)

/-- The meaning of entries, one after the other and keys before values. -/
inductive MeansEntries (cs : List Char) :
    Completed → List (EventTree × EventTree) → Node.Entries → Completed → List Span → Prop where
  | nil {done : Completed} : MeansEntries cs done [] [] done []
  | cons {done done₁ done₂ done₃ : Completed} {k v : EventTree}
      {rest : List (EventTree × EventTree)} {key value : Node} {nodes : Node.Entries}
      {us vs ws : List Span} (hkey : Means cs done k key done₁ us)
      (hvalue : Means cs done₁ v value done₂ vs)
      (tail : MeansEntries cs done₂ rest nodes done₃ ws) :
      MeansEntries cs done ((k, v) :: rest) ((key, value) :: nodes) done₃ (us ++ vs ++ ws)

end

/-- The meaning of documents, one after the other: completed nodes stay known in later ones. -/
inductive MeansDocuments (cs : List Char) :
    Completed → List EventDocument → List Document → Completed → List Span → Prop where
  | nil {done : Completed} : MeansDocuments cs done [] [] done []
  | empty {done done' : Completed} {opening closing : Extent} {rest : List EventDocument}
      {range : DocumentRange} {documents : List Document} {us : List Span}
      (tail : MeansDocuments cs done rest documents done' us) :
      MeansDocuments cs done (⟨opening, none, closing⟩ :: rest) (⟨none, range⟩ :: documents) done'
        us
  | node {done done' done'' : Completed} {opening closing : Extent} {t : EventTree}
      {rest : List EventDocument} {n : Node} {range : DocumentRange} {documents : List Document}
      {us vs : List Span} (root : Means cs done t n done' us)
      (tail : MeansDocuments cs done' rest documents done'' vs) :
      MeansDocuments cs done (⟨opening, some t, closing⟩ :: rest) (⟨some n, range⟩ :: documents)
        done'' (us ++ vs)

/-- The spans of the problems that report an alias without a node. -/
def unknownAliases (problems : List Problem) : List Span :=
  (problems.filter fun p => p.code == "UNKNOWN_ALIAS").map Problem.span

end PrimitiveDesk.Yaml
