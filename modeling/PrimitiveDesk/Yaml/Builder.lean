import PrimitiveDesk.Text.Lines
import PrimitiveDesk.Yaml.Document
import PrimitiveDesk.Yaml.Event.Parser

/-!
# From events to documents

The documents of an event list are built by one pass over it. The builder holds the collections that
are open; a finished node is delivered to the innermost one, or becomes the root of the document.

The builder accepts every list of events, also one that a fault has cut off. An event that an open
collection cannot take closes the collection with what it has; a mapping whose last key has no value
gets a missing one.
-/

namespace PrimitiveDesk.Yaml

open Text

/-- A collection whose end was not met yet. -/
inductive Open where
  /-- A sequence: its start, whether it is written in brackets, its anchor, the end of its last
  item, and its items, latest first. -/
  | sequence (start : Nat) (flow : Bool) (anchor : Nat) (stop : Nat) (items : List Node)
  /-- A mapping: likewise with entries, and the key that waits for its value. -/
  | mapping (start : Nat) (flow : Bool) (anchor : Nat) (stop : Nat) (entries : Node.Entries)
      (key? : Option Node)

/-- Where the builder is in a document. -/
inductive Progress where
  /-- No event of the root was met. -/
  | awaiting
  /-- Collections of the root are open, innermost first, then the outer ones. -/
  | building (inner : Open) (outer : List Open)
  /-- The root is finished, or there is none. -/
  | settled (root? : Option Node)

/-- A document whose end was not met yet. -/
structure OpenDocument where
  start : Nat
  progress : Progress

/-- The state of building documents. -/
structure Builder where
  /-- Finished documents, latest first. -/
  documents : List Document
  current? : Option OpenDocument
  /-- The anchored nodes finished so far, latest first. -/
  anchors : List (Nat × Node)
  /-- Problems, latest first. -/
  problems : List Problem

namespace Builder

/-- Nothing was built yet. -/
def initial : Builder := ⟨[], none, [], []⟩

/-- The bytes of an event. -/
def spanOf (text : List Char) (e : Extent) : Span :=
  ⟨byteOffset text e.start.index, byteOffset text e.stop.index⟩

/-- The node of a scalar event. An unwritten scalar has an empty text. -/
def scalarNode (text : List Char) (value : String) (style : Style) (e : Extent) : Node :=
  let start := byteOffset text e.start.index
  let stop := max (byteOffset text e.stop.index) start
  let kind := match style with
    | .plain => ScalarKind.plain
    | .singleQuoted => .quoted
    | .doubleQuoted => .quoted
    | .literal => .block
    | .folded => .block
  let written := ((slice? text ⟨start, stop⟩).map (·.contains '~')).getD false
  let value := if kind == .plain && value == unwrittenText && !written then "" else value
  .scalar ⟨value, kind⟩ ⟨start, stop⟩

/-- Whether the character that starts at a byte offset is the given one. -/
def startsWith (text : List Char) (offset : Nat) (c : Char) : Bool :=
  ((dropBytes? text offset).bind List.head?) == some c

/-- Adds an entry to a mapping's entries, with a warning if its key is there already. -/
def addEntry (b : Builder) (entries : Node.Entries) (key value : Node) : Builder × Node.Entries :=
  let b := match key.str? with
    | some name =>
      if entries.any fun e => e.1.str? == some name then
        { b with problems := ⟨.duplicateKey name, key.span⟩ :: b.problems }
      else b
    | none => b
  (b, (key, value) :: entries)

/-- Records a finished node under its anchor. -/
def record (b : Builder) (anchor : Nat) (n : Node) : Builder :=
  if anchor == 0 then b else { b with anchors := (anchor, n) :: b.anchors }

/-- Gives a finished node to an open collection. -/
def give (b : Builder) (o : Open) (n : Node) : Builder × Open :=
  match o with
  | .sequence start flow anchor stop items =>
    (b, .sequence start flow anchor (max stop n.span.stop) (n :: items))
  | .mapping start flow anchor stop entries none =>
    (b, .mapping start flow anchor stop entries (some n))
  | .mapping start flow anchor stop entries (some key) =>
    let (b, entries) := b.addEntry entries key n
    (b, .mapping start flow anchor (max (max stop key.span.stop) n.span.stop) entries none)

/-- Closes a collection; `close?` is where its closing bracket ends. -/
def close (b : Builder) (o : Open) (close? : Option Nat) : Builder × Nat × Node :=
  let (b, o) := match o with
    | .mapping _ _ _ _ _ (some key) => b.give o (.missing key.span.stop)
    | o => (b, o)
  let ending (flow : Bool) (stop : Nat) : Nat :=
    match close? with
    | some c => if flow then max stop c else stop
    | none => stop
  match o with
  | .sequence start flow anchor stop items =>
    (b, anchor, .sequence items.reverse ⟨start, ending flow stop⟩)
  | .mapping start flow anchor stop entries _ =>
    (b, anchor, .mapping entries.reverse ⟨start, ending flow stop⟩)

/-- Delivers a finished node to the innermost collection that is open, or as the root. -/
def deliver (b : Builder) (stack : List Open) (n : Node) : Builder × Progress :=
  match stack with
  | [] => (b, .settled (some n))
  | o :: outer =>
    let (b, o) := b.give o n
    (b, .building o outer)

/-- Closes the innermost collection and delivers it. -/
def closeInner (b : Builder) (inner : Open) (outer : List Open) (close? : Option Nat) :
    Builder × Progress :=
  let (b, anchor, n) := b.close inner close?
  (b.record anchor n).deliver outer n

/-- Closes all open collections. -/
def closeAll (b : Builder) (inner : Open) : List Open → Builder × Option Node
  | [] =>
    let (b, anchor, n) := b.close inner none
    (b.record anchor n, some n)
  | o :: outer =>
    let (b, anchor, n) := b.close inner none
    let (b, o) := (b.record anchor n).give o n
    b.closeAll o outer

/-- The root of a document, with all open collections closed. -/
def settle (b : Builder) : Progress → Builder × Option Node
  | .awaiting => (b, none)
  | .building inner outer => b.closeAll inner outer
  | .settled root? => (b, root?)

/-- Finishes a document; `stop?` is where its end marker, or the token behind it, ends. -/
def finish (b : Builder) (d : OpenDocument) (stop? : Option Nat) : Builder :=
  let (b, root?) := b.settle d.progress
  let contentEnd := match root? with
    | some n => max n.span.stop d.start
    | none => d.start
  let stop := match stop? with
    | some s => max contentEnd s
    | none => contentEnd
  { b with documents := ⟨root?, ⟨d.start, contentEnd, stop⟩⟩ :: b.documents, current? := none }

/-- Starts or delivers the node of an event, if it has one. -/
def node (text : List Char) (b : Builder) (stack : List Open) (e : Event) :
    Option (Builder × Progress) :=
  let span := spanOf text e.extent
  match e.kind with
  | .scalar value style anchor =>
    let n := scalarNode text value style e.extent
    some ((b.record anchor n).deliver stack n)
  | .alias anchor =>
    match b.anchors.lookup anchor with
    | some n => some (b.deliver stack (n.withSpan span))
    | none =>
      let b := { b with problems := ⟨.unknownAlias, span⟩ :: b.problems }
      some (b.deliver stack (.plain "" span))
  | .sequenceStart anchor =>
    let o := .sequence span.start (startsWith text span.start '[') anchor span.start []
    some (b, .building o stack)
  | .mappingStart anchor =>
    let o := .mapping span.start (startsWith text span.start '\x7b') anchor span.start [] none
    some (b, .building o stack)
  | _ => none

/-- Whether the event ends the collection. -/
def ends (o : Open) (e : Event) : Bool :=
  match o, e.kind with
  | .sequence .., .sequenceEnd => true
  | .mapping .., .mappingEnd => true
  | _, _ => false

/-- Gives an event to the open collections, closing those that cannot take it. -/
def offer (text : List Char) (b : Builder) (e : Event) (inner : Open) :
    List Open → Builder × Progress
  | [] =>
    if ends inner e then b.closeInner inner [] (some (spanOf text e.extent).stop)
    else
      match node text b [inner] e with
      | some r => r
      | none => b.closeInner inner [] none
  | o :: outer =>
    if ends inner e then b.closeInner inner (o :: outer) (some (spanOf text e.extent).stop)
    else
      match node text b (inner :: o :: outer) e with
      | some r => r
      | none =>
        let (b, anchor, n) := b.close inner none
        let (b, o) := (b.record anchor n).give o n
        offer text b e o outer

/-- Gives an event to the current document. -/
def progress (text : List Char) (b : Builder) (e : Event) : Progress → Builder × Progress
  | .awaiting =>
    match node text b [] e with
    | some r => r
    | none => (b, .settled none)
  | .building inner outer => offer text b e inner outer
  | .settled root? => (b, .settled root?)

/-- Takes the next event. -/
def step (text : List Char) (b : Builder) (e : Event) : Builder :=
  let span := spanOf text e.extent
  match e.kind, b.current? with
  | .documentStart, none => { b with current? := some ⟨span.start, .awaiting⟩ }
  | .documentStart, some d => { b.finish d none with current? := some ⟨span.start, .awaiting⟩ }
  | .documentEnd, some d => b.finish d (some span.stop)
  | .streamEnd, some d => b.finish d none
  | _, some d =>
    let (b, p) := b.progress text e d.progress
    { b with current? := some { d with progress := p } }
  | _, none => b

/-- Finishes the document that is open, if any. -/
def done (b : Builder) : Builder :=
  match b.current? with
  | some d => b.finish d none
  | none => b

end Builder

namespace Stream

/-- The documents of an event list over a text, behind problems found before. -/
def ofEvents (text : String) (events : List Event) (problems : List Problem) : Stream :=
  let cs := text.toList
  let start := { Builder.initial with problems := problems.reverse }
  let b := (events.foldl (Builder.step cs) start).done
  ⟨b.documents.reverse, b.problems.reverse⟩

/-- The problem of a fault: it spans the character at which it was met. -/
def faultProblem (text : String) (e : ScanError) : Problem :=
  let cs := text.toList
  let start := byteOffset cs e.mark.index
  ⟨.scan e, ⟨start, nextBoundary cs start⟩⟩

/-- The documents of a text. -/
def ofText (text : String) : Stream :=
  let es := EventStream.ofText text
  ofEvents text es.events (es.error?.map (faultProblem text)).toList

end Stream

end PrimitiveDesk.Yaml
