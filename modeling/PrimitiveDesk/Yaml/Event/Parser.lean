import PrimitiveDesk.Yaml.Event
import PrimitiveDesk.Yaml.Token.Scanner

/-!
# From tokens to events

The grammar of YAML over tokens, as a machine with a stack of places to return to. Each step gives
one event. `EventStream.ofText` runs it on a text up to the end or the first fault.
-/

namespace PrimitiveDesk.Yaml

/-- What the grammar expects next. -/
inductive Place where
  | streamStart
  | implicitDocumentStart
  | documentStart
  | documentContent
  | documentEnd
  | blockNode
  | blockSequenceFirstEntry
  | blockSequenceEntry
  | indentlessSequenceEntry
  | blockMappingFirstKey
  | blockMappingKey
  | blockMappingValue
  | flowSequenceFirstEntry
  | flowSequenceEntry
  | flowPairKey
  | flowPairValue
  /-- A pair in a flow sequence ends, as far as its value's first token reaches. -/
  | flowPairEnd (stop : Mark)
  | flowMappingFirstKey
  | flowMappingKey
  | flowMappingValue
  | flowMappingEmptyValue
  | finished
deriving DecidableEq, Repr

/-- The state of reading events. -/
structure Parser where
  /-- The tokens not yet used. -/
  tokens : List Token
  /-- The fault behind the last token, if any. -/
  error? : Option ScanError
  place : Place
  /-- Where to go on after the current node, innermost first. -/
  returns : List Place
  /-- The numbers of the anchors met so far, latest first. -/
  anchors : List (String × Nat)
  nextAnchor : Nat
  /-- The tag handles declared for the current document. -/
  handles : List (String × String)

namespace Parser

open Cursor

/-- The state before the first token. -/
def ofTokens (ts : TokenStream) : Parser :=
  ⟨ts.tokens, ts.error?, .streamStart, [], [], 1, []⟩

/-- The next token, or the fault in its place. -/
def peek (p : Parser) : Except ScanError Token :=
  match p.tokens with
  | t :: _ => .ok t
  | [] => .error (p.error?.getD ⟨.start, .nodeContent⟩)

/-- Behind the next token. -/
def advance (p : Parser) : Parser :=
  { p with tokens := p.tokens.drop 1 }

/-- Expecting the given place next. -/
def goto (p : Parser) (place : Place) : Parser :=
  { p with place }

/-- Noting where to go on after the next node. -/
def thenReturn (p : Parser) (place : Place) : Parser :=
  { p with returns := place :: p.returns }

/-- Going on behind a finished node. -/
def resume (p : Parser) : Parser :=
  match p.returns with
  | r :: rs => { p with place := r, returns := rs }
  | [] => { p with place := .finished }

/-- The result of a step. -/
abbrev Step := Except ScanError (Event × Parser)

/-- Gives an event. -/
def emit (p : Parser) (extent : Extent) (kind : EventKind) : Step :=
  .ok (⟨kind, extent⟩, p)

/-- Gives a scalar that is not written. -/
def emitUnwritten (p : Parser) (extent : Extent) : Step :=
  p.emit extent (.scalar unwrittenText .plain 0)

/-- Numbers an anchor; a name used before is redefined. -/
def register (p : Parser) (name : String) : Nat × Parser :=
  (p.nextAnchor,
    { p with anchors := (name, p.nextAnchor) :: p.anchors, nextAnchor := p.nextAnchor + 1 })

/-- Checks that the handle of a tag is declared. Handles between two marks must be, all others are
always known. -/
def checkTag (p : Parser) (m : Mark) (handle : String) : Except ScanError Unit :=
  let named := handle != "!!" && 2 ≤ handle.length && handle.startsWith "!" && handle.endsWith "!"
  if named && (p.handles.lookup handle).isNone then fail m .undeclaredHandle else .ok ()

/-- Reads the anchor and tag in front of a node, in either order: the anchor's number, and whether
there is any. -/
def properties (p : Parser) : Except ScanError (Nat × Bool × Parser) := do
  let t ← p.peek
  match t.kind with
  | .anchor name =>
    let (n, p) := p.advance.register name
    let u ← p.peek
    match u.kind with
    | .tag handle _ =>
      p.checkTag t.extent.start handle
      return (n, true, p.advance)
    | _ => return (n, true, p)
  | .tag handle _ =>
    p.checkTag t.extent.start handle
    let p := p.advance
    let u ← p.peek
    match u.kind with
    | .anchor name =>
      let (n, p) := p.advance.register name
      return (n, true, p)
    | _ => return (0, true, p)
  | _ => return (0, false, p)

/-- Reads a node. Block collections may start only in blocks, and a sequence without indentation
only as a value in a block mapping. -/
def node (p : Parser) (block indentless : Bool) : Step := do
  let t ← p.peek
  match t.kind with
  | .alias name =>
    match p.anchors.lookup name with
    | some n => p.resume.advance.emit t.extent (.alias n)
    | none => fail t.extent.start .unknownAnchor
  | _ =>
    let (anchor, named, p) ← p.properties
    let t ← p.peek
    let unexpected : Step :=
      if named then p.resume.emit t.extent (.scalar unwrittenText .plain anchor)
      else fail t.extent.start .nodeContent
    match t.kind with
    | .blockEntry =>
      if indentless then (p.goto .indentlessSequenceEntry).emit t.extent (.sequenceStart anchor)
      else unexpected
    | .scalar style text => p.resume.advance.emit t.extent (.scalar text style anchor)
    | .flowSequenceStart => (p.goto .flowSequenceFirstEntry).emit t.extent (.sequenceStart anchor)
    | .flowMappingStart => (p.goto .flowMappingFirstKey).emit t.extent (.mappingStart anchor)
    | .blockSequenceStart =>
      if block then (p.goto .blockSequenceFirstEntry).emit t.extent (.sequenceStart anchor)
      else unexpected
    | .blockMappingStart =>
      if block then (p.goto .blockMappingFirstKey).emit t.extent (.mappingStart anchor)
      else unexpected
    | _ => unexpected

/-- Reads the directives in front of a document, one token each. The handles that hold are those of
the last directive. -/
def directives : Nat → Bool → Parser → Except ScanError Parser
  | 0, _, p => .ok p
  | fuel + 1, versioned, p => do
    let t ← p.peek
    match t.kind with
    | .versionDirective =>
      if versioned then fail t.extent.start .repeatedVersion
      else directives fuel true { p.advance with handles := [] }
    | .tagDirective handle head =>
      directives fuel versioned { p.advance with handles := [(handle, head)] }
    | _ => return p

/-- Starts a document at its marker. -/
def explicitDocument (p : Parser) : Step := do
  let p ← directives (p.tokens.length + 1) false p
  let t ← p.peek
  match t.kind with
  | .documentStart =>
    ((p.thenReturn .documentEnd).goto .documentContent).advance.emit t.extent .documentStart
  | _ => fail t.extent.start .documentStart

/-- Passes over document end markers. -/
def skipDocumentEnds : List Token → List Token
  | [] => []
  | t :: ts => if t.kind == .documentEnd then skipDocumentEnds ts else t :: ts

/-- Starts a document, or ends the stream. Only behind a document end may a document start without
its marker. -/
def document (p : Parser) (implicit : Bool) : Step := do
  let p := { p with tokens := skipDocumentEnds p.tokens }
  let t ← p.peek
  match t.kind with
  | .streamEnd => (p.goto .finished).advance.emit t.extent .streamEnd
  | .versionDirective => p.explicitDocument
  | .tagDirective _ _ => p.explicitDocument
  | .documentStart => p.explicitDocument
  | _ =>
    if implicit then
      ((p.thenReturn .documentEnd).goto .blockNode).emit t.extent .documentStart
    else p.explicitDocument

/-- Reads the content of a document behind its marker. -/
def documentContent (p : Parser) : Step := do
  let t ← p.peek
  match t.kind with
  | .versionDirective => p.resume.emitUnwritten t.extent
  | .tagDirective _ _ => p.resume.emitUnwritten t.extent
  | .documentStart => p.resume.emitUnwritten t.extent
  | .documentEnd => p.resume.emitUnwritten t.extent
  | .streamEnd => p.resume.emitUnwritten t.extent
  | _ => p.node true false

/-- Ends a document at its end marker or at the token that follows it. -/
def documentEnd (p : Parser) : Step := do
  let t ← p.peek
  let p := { p with handles := [] }
  match t.kind with
  | .documentEnd => (p.goto .implicitDocumentStart).advance.emit t.extent .documentEnd
  | .versionDirective => fail t.extent.start .directiveWithoutEnd
  | .tagDirective _ _ => fail t.extent.start .directiveWithoutEnd
  | _ => (p.goto .documentStart).emit t.extent .documentEnd

/-- Reads an entry of a block sequence. -/
def blockSequenceEntry (p : Parser) : Step := do
  let t ← p.peek
  match t.kind with
  | .blockEnd => p.resume.advance.emit t.extent .sequenceEnd
  | .blockEntry =>
    let p := p.advance
    let u ← p.peek
    if u.kind == .blockEntry || u.kind == .blockEnd then
      (p.goto .blockSequenceEntry).emitUnwritten t.extent
    else (p.thenReturn .blockSequenceEntry).node true false
  | _ => fail t.extent.start .blockEntry

/-- Reads an entry of a sequence that is a value at the indentation of its key. -/
def indentlessSequenceEntry (p : Parser) : Step := do
  let t ← p.peek
  match t.kind with
  | .blockEntry =>
    let p := p.advance
    let u ← p.peek
    if u.kind == .blockEntry || u.kind == .key || u.kind == .value || u.kind == .blockEnd then
      (p.goto .indentlessSequenceEntry).emitUnwritten t.extent
    else (p.thenReturn .indentlessSequenceEntry).node true false
  | _ => p.resume.emit t.extent .sequenceEnd

/-- Whether the token ends an entry of a block mapping. -/
def endsBlockPair (t : Token) : Bool :=
  t.kind == .key || t.kind == .value || t.kind == .blockEnd

/-- Reads a key of a block mapping, or its end. -/
def blockMappingKey (p : Parser) : Step := do
  let t ← p.peek
  match t.kind with
  | .key =>
    let p := p.advance
    let u ← p.peek
    if endsBlockPair u then (p.goto .blockMappingValue).emitUnwritten u.extent
    else (p.thenReturn .blockMappingValue).node true true
  | .value => (p.goto .blockMappingValue).emitUnwritten t.extent
  | .blockEnd => p.resume.advance.emit t.extent .mappingEnd
  | _ => fail t.extent.start .blockMappingKey

/-- Reads a value of a block mapping. -/
def blockMappingValue (p : Parser) : Step := do
  let t ← p.peek
  match t.kind with
  | .value =>
    let p := p.advance
    let u ← p.peek
    if endsBlockPair u then (p.goto .blockMappingKey).emitUnwritten t.extent
    else (p.thenReturn .blockMappingKey).node true true
  | _ => (p.goto .blockMappingKey).emitUnwritten t.extent

/-- Reads an entry of a flow sequence at its first token, or the end of the sequence. -/
def flowEntry (p : Parser) : Step := do
  let t ← p.peek
  match t.kind with
  | .flowSequenceEnd => p.resume.advance.emit t.extent .sequenceEnd
  | .key => (p.goto .flowPairKey).advance.emit t.extent (.mappingStart 0)
  | _ => (p.thenReturn .flowSequenceEntry).node false false

/-- Reads an entry of a flow sequence; all but the first follow a comma. -/
def flowSequenceEntry (p : Parser) (first : Bool) : Step := do
  let t ← p.peek
  match t.kind with
  | .flowSequenceEnd => p.resume.advance.emit t.extent .sequenceEnd
  | .flowEntry => if first then p.flowEntry else p.advance.flowEntry
  | _ => if first then p.flowEntry else fail t.extent.start .flowSequenceSeparator

/-- Reads the key of a pair in a flow sequence. -/
def flowPairKey (p : Parser) : Step := do
  let t ← p.peek
  if t.kind == .value || t.kind == .flowEntry || t.kind == .flowSequenceEnd then
    (p.goto .flowPairValue).advance.emitUnwritten t.extent
  else (p.thenReturn .flowPairValue).node false false

/-- Reads the value of a pair in a flow sequence. -/
def flowPairValue (p : Parser) : Step := do
  let t ← p.peek
  match t.kind with
  | .value =>
    let p := p.advance
    let u ← p.peek
    let ending := Place.flowPairEnd u.extent.stop
    if u.kind == .flowEntry || u.kind == .flowSequenceEnd then
      (p.goto ending).emitUnwritten u.extent
    else (p.thenReturn ending).node false false
  | _ => (p.goto (.flowPairEnd t.extent.stop)).emitUnwritten t.extent

/-- Ends a pair in a flow sequence. -/
def flowPairEnd (p : Parser) (stop : Mark) : Step :=
  (p.goto .flowSequenceEntry).emit (.empty stop) .mappingEnd

/-- Reads a key of a flow mapping behind its comma. At the end of the mapping, `extent` is the
extent of the first token looked at. -/
def flowKey (p : Parser) (extent : Extent) : Step := do
  let t ← p.peek
  match t.kind with
  | .key =>
    let p := p.advance
    let u ← p.peek
    if u.kind == .value || u.kind == .flowEntry || u.kind == .flowMappingEnd then
      (p.goto .flowMappingValue).emitUnwritten u.extent
    else (p.thenReturn .flowMappingValue).node false false
  | .value => (p.goto .flowMappingValue).emitUnwritten t.extent
  | .flowMappingEnd => p.resume.advance.emit extent .mappingEnd
  | _ => (p.thenReturn .flowMappingEmptyValue).node false false

/-- Reads a key of a flow mapping; all but the first follow a comma. -/
def flowMappingKey (p : Parser) (first : Bool) : Step := do
  let t ← p.peek
  match t.kind with
  | .flowMappingEnd => p.resume.advance.emit t.extent .mappingEnd
  | .flowEntry => if first then p.flowKey t.extent else p.advance.flowKey t.extent
  | _ => if first then p.flowKey t.extent else fail t.extent.start .flowMappingSeparator

/-- Reads a value of a flow mapping. -/
def flowMappingValue (p : Parser) (empty : Bool) : Step := do
  let t ← p.peek
  if empty then (p.goto .flowMappingKey).emitUnwritten t.extent
  else
    match t.kind with
    | .value =>
      let p := p.advance
      let u ← p.peek
      if u.kind == .flowEntry || u.kind == .flowMappingEnd then
        (p.goto .flowMappingKey).emitUnwritten t.extent
      else (p.thenReturn .flowMappingKey).node false false
    | _ => (p.goto .flowMappingKey).emitUnwritten t.extent

/-- Starts the stream. -/
def streamStart (p : Parser) : Step := do
  let t ← p.peek
  (p.goto .implicitDocumentStart).advance.emit t.extent .streamStart

/-- Gives the next event. -/
def step (p : Parser) : Step :=
  match p.place with
  | .streamStart => p.streamStart
  | .implicitDocumentStart => p.document true
  | .documentStart => p.document false
  | .documentContent => p.documentContent
  | .documentEnd => p.documentEnd
  | .blockNode => p.node true false
  | .blockSequenceFirstEntry => p.advance.blockSequenceEntry
  | .blockSequenceEntry => p.blockSequenceEntry
  | .indentlessSequenceEntry => p.indentlessSequenceEntry
  | .blockMappingFirstKey => p.advance.blockMappingKey
  | .blockMappingKey => p.blockMappingKey
  | .blockMappingValue => p.blockMappingValue
  | .flowSequenceFirstEntry => p.advance.flowSequenceEntry true
  | .flowSequenceEntry => p.flowSequenceEntry false
  | .flowPairKey => p.flowPairKey
  | .flowPairValue => p.flowPairValue
  | .flowPairEnd stop => p.flowPairEnd stop
  | .flowMappingFirstKey => p.advance.flowMappingKey true
  | .flowMappingKey => p.flowMappingKey false
  | .flowMappingValue => p.flowMappingValue false
  | .flowMappingEmptyValue => p.flowMappingValue true
  | .finished => p.streamStart

/-- Gives events up to the end or the first fault; `acc` holds those given, latest first. -/
def run : Nat → List Event → Parser → EventStream
  | 0, acc, _ => ⟨acc.reverse, none⟩
  | fuel + 1, acc, p =>
    if p.place == .finished then ⟨acc.reverse, none⟩
    else
      match p.step with
      | .error e => ⟨acc.reverse, some e⟩
      | .ok (e, p) => run fuel (e :: acc) p

end Parser

/-- The events of tokens. At most four steps in a row use no token, so a multiple of the number of
tokens is enough fuel. -/
def EventStream.ofTokens (ts : TokenStream) : EventStream :=
  Parser.run (8 * ts.tokens.length + 8) [] (.ofTokens ts)

/-- The events of a text. -/
def EventStream.ofText (text : String) : EventStream :=
  .ofTokens (.ofText text)

end PrimitiveDesk.Yaml
