import PrimitiveDesk.Yaml.Token.Block
import PrimitiveDesk.Yaml.Token.Plain
import PrimitiveDesk.Yaml.Token.Quoted
import PrimitiveDesk.Yaml.Token.Tag

/-!
# From text to tokens

The scanner reads one token after another and keeps track of indentation and of places where a
mapping key may have started. When a colon shows that one did, the tokens of the key are put in
front of what was read since (`Scanner.insertAt`).

A token is released once no pending key can still get something in front of it; a fault takes back
only what was not released. `TokenStream.ofText` gives the released tokens and the fault.
-/

namespace PrimitiveDesk.Yaml

open Cursor

/-- A place where a mapping key may have started. -/
structure PendingKey where
  /-- Whether a key is still possible there. -/
  possible : Bool
  /-- Whether the text is at fault if no key starts there. -/
  required : Bool
  /-- The number of tokens read before that place. -/
  tokenNumber : Nat
  mark : Mark
deriving Repr

namespace PendingKey

/-- No key is pending. -/
def none : PendingKey := ⟨false, false, 0, ⟨0, 0, 0⟩⟩

end PendingKey

/-- An enclosing indentation. -/
structure Indent where
  indent : Int
  /-- Whether a block collection was opened, which needs an end token. -/
  isBlock : Bool
deriving Repr

/-- Whether a flow sequence is inside a pair written without braces. -/
inductive FlowPair where
  | possible
  | inside
deriving DecidableEq, Repr

/-- The state of reading tokens. -/
structure Scanner where
  cursor : Cursor
  /-- All tokens read so far. -/
  tokens : Array Token
  /-- Where a colon may stand directly in front of its value, behind a quoted scalar or flow
  collection. -/
  adjacentAt : Nat
  keyAllowed : Bool
  /-- Pending keys, one for each flow level, innermost first. -/
  keys : List PendingKey
  indent : Int
  /-- Enclosing indentations, innermost first. -/
  indents : List Indent
  flowLevel : Nat
  flowMappingStarted : Bool
  /-- The flow sequences around the cursor, innermost first. -/
  pairs : List FlowPair
  ended : Bool

namespace Scanner

/-- The state before the first character, behind the token that starts the stream. -/
def ofText (text : String) : Scanner where
  cursor := .ofText text
  tokens := #[⟨.empty .start, .streamStart⟩]
  adjacentAt := 0
  keyAllowed := true
  keys := [.none]
  indent := -1
  indents := []
  flowLevel := 0
  flowMappingStarted := false
  pairs := []
  ended := false

/-- The mark of the cursor. -/
def mark (s : Scanner) : Mark := s.cursor.mark

/-- Adds a token at the end. -/
def push (s : Scanner) (extent : Extent) (kind : TokenKind) : Scanner :=
  { s with tokens := s.tokens.push ⟨extent, kind⟩ }

/-- Adds a token in front of token number `n`. -/
def insertAt (s : Scanner) (n : Nat) (extent : Extent) (kind : TokenKind) : Scanner :=
  { s with
    tokens := s.tokens.extract 0 n ++ #[⟨extent, kind⟩] ++ s.tokens.extract n s.tokens.size }

/-- Adds a token that was just read. -/
def accept (s : Scanner) (r : Token × Cursor) : Scanner :=
  { s with tokens := s.tokens.push r.1, cursor := r.2 }

/-- Gives up the keys that cannot be keys any more because their line has ended or they are too
long. -/
def dropStaleKeys (s : Scanner) : Except ScanError Scanner :=
  let stale (k : PendingKey) : Bool :=
    k.possible && s.flowLevel == 0 &&
      (k.mark.line < s.mark.line || k.mark.index + 1024 < s.mark.index)
  if s.keys.any fun k => stale k && k.required then fail s.mark .keyWithoutColon
  else
    .ok { s with
      keys := s.keys.map fun k => if stale k then { k with possible := false } else k }

/-- Notes that a key may start at the cursor. -/
def saveKey (s : Scanner) : Scanner :=
  if s.keyAllowed then
    let required := s.flowLevel == 0 && s.indent == s.cursor.column &&
      (s.indents.head?.map (·.isBlock)).getD false
    { s with keys := ⟨true, required, s.tokens.size, s.mark⟩ :: s.keys.drop 1 }
  else s

/-- Gives up the innermost pending key. -/
def removeKey (s : Scanner) : Except ScanError Scanner :=
  match s.keys with
  | k :: ks =>
    if k.possible && k.required then fail s.mark .keyMissing
    else .ok { s with keys := { k with possible := false } :: ks }
  | [] => .ok s

/-- Closes the blocks that are indented further than `column`, outside of flow collections. -/
def unrollTo (column : Int) : List Indent → Scanner → Scanner
  | [], s => s
  | i :: is, s =>
    if column < s.indent then
      let s := { s with indent := i.indent, indents := is }
      unrollTo column is (if i.isBlock then s.push (.empty s.mark) .blockEnd else s)
    else s

/-- Closes the blocks that are indented further than `column`. -/
def unroll (s : Scanner) (column : Int) : Scanner :=
  if s.flowLevel == 0 then unrollTo column s.indents s else s

/-- Takes back the innermost indentation if it opened no block and is not deeper than `column`. -/
def unrollOne (s : Scanner) (column : Nat) : Scanner :=
  match s.indents with
  | i :: is =>
    if s.indent ≤ (column : Int) && !i.isBlock then { s with indent := i.indent, indents := is }
    else s
  | [] => s

/-- Opens a block at a column, unless one of that indentation is open. The token goes to the end or
in front of token `number?`. -/
def roll (s : Scanner) (column : Nat) (number? : Option Nat) (kind : TokenKind) (m : Mark) :
    Scanner :=
  if s.flowLevel != 0 then s
  else
    let s := s.unrollOne column
    if s.indent < (column : Int) then
      let s := { s with indent := (column : Int), indents := ⟨s.indent, true⟩ :: s.indents }
      match number? with
      | some n => s.insertAt n (.empty m) kind
      | none => s.push (.empty m) kind
    else s

/-- Asks that what follows be indented by one more column, without opening a block. -/
def rollOne (s : Scanner) : Scanner :=
  match s.indents with
  | i :: _ =>
    if s.flowLevel == 0 && i.isBlock then
      { s with indent := s.indent + 1, indents := ⟨s.indent, false⟩ :: s.indents }
    else s
  | [] => s

/-- The indentation and enclosing ones without those that opened no block. -/
def blockIndents : Int → List Indent → Int × List Indent
  | indent, [] => (indent, [])
  | indent, i :: is => if i.isBlock then (indent, i :: is) else blockIndents i.indent is

/-- Takes back the indentations that opened no block. -/
def unrollOnes (s : Scanner) : Scanner :=
  let (indent, indents) := blockIndents s.indent s.indents
  { s with indent, indents }

/-- Passes over blanks, comments and line breaks. Each step reads a character, so the length of the
text is enough fuel. -/
def skipToToken : Nat → Scanner → Except ScanError Scanner
  | 0, s => .ok s
  | fuel + 1, s =>
    let c := s.cursor
    match c.rest with
    | [] => .ok s
    | ch :: _ =>
      if ch == '\t' && !s.indents.isEmpty && c.fresh && c.column < s.indent then do
        let skipped ← c.skipToLineEnd true
        if endsLine skipped.cursor.rest then skipToToken fuel { s with cursor := skipped.cursor }
        else fail skipped.cursor.mark .tabInIndentation
      else if isWhite ch then skipToToken fuel { s with cursor := c.passBlanks 1 }
      else if isBreak ch then
        skipToToken fuel
          { s with cursor := c.passBreak, keyAllowed := s.keyAllowed || s.flowLevel == 0 }
      else if ch == '#' then skipToToken fuel { s with cursor := c.passLine }
      else .ok s

/-- Passes over blanks, comments and line breaks. -/
def skip (s : Scanner) : Except ScanError Scanner :=
  skipToToken (s.cursor.rest.length + 1) s

/-- Passes over spaces, comments and line breaks, of which there must be some. -/
def skipWhitespace : Nat → Bool → Scanner → Except ScanError Scanner
  | 0, _, s => .ok s
  | fuel + 1, found, s =>
    let c := s.cursor
    match c.rest with
    | ' ' :: _ => skipWhitespace fuel true { s with cursor := c.passBlanks 1 }
    | '#' :: _ => skipWhitespace fuel found { s with cursor := c.passLine }
    | ch :: _ =>
      if isBreak ch then
        skipWhitespace fuel true
          { s with cursor := c.passBreak, keyAllowed := s.keyAllowed || s.flowLevel == 0 }
      else if found then .ok s
      else fail s.mark .missingWhitespace
    | [] => if found then .ok s else fail s.mark .missingWhitespace

/-- Ends the stream on a line of its own. -/
def fetchStreamEnd (s : Scanner) : Except ScanError Scanner := do
  let m := s.mark
  let m := if m.column == 0 then m else ⟨m.index, m.line + 1, 0⟩
  let s := { s with cursor := { s.cursor with mark := m } }
  if s.keys.any fun k => k.required && k.possible then fail m .keyMissing
  else
    let s := { s with keys := s.keys.map fun (k : PendingKey) => { k with possible := false } }
    let s ← (s.unroll (-1)).removeKey
    return { s.push (.empty m) .streamEnd with keyAllowed := false, ended := true }

/-- Reads a directive line. -/
def fetchDirective (s : Scanner) : Except ScanError Scanner := do
  let s ← (s.unroll (-1)).removeKey
  let r ← Tag.readDirective s.cursor
  return { s.accept r with keyAllowed := false }

/-- Reads a document marker. -/
def fetchMarker (s : Scanner) (kind : TokenKind) : Except ScanError Scanner := do
  let s ← (s.unroll (-1)).removeKey
  let c := s.cursor.pass 3
  return { s.push ⟨s.mark, c.mark⟩ kind with cursor := c, keyAllowed := false }

/-- Reads a document end marker, behind which only a comment may stand. -/
def fetchDocumentEnd (s : Scanner) : Except ScanError Scanner := do
  let s ← s.fetchMarker .documentEnd
  let skipped ← s.cursor.skipToLineEnd true
  if endsLine skipped.cursor.rest then return { s with cursor := skipped.cursor }
  else fail skipped.cursor.mark .contentAfterDocumentEnd

/-- The deepest nesting of flow collections. -/
def flowLimit : Nat := 255

/-- Reads the opening bracket of a flow collection, which may be a key. -/
def fetchFlowStart (s : Scanner) (kind : TokenKind) : Except ScanError Scanner := do
  let s := s.saveKey.rollOne
  if s.flowLevel == flowLimit then fail s.mark .flowDepth
  else
    let start := s.mark
    let skipped ← (s.cursor.pass 1).skipToLineEnd true
    let mapping := kind == .flowMappingStart
    return { s.push ⟨start, skipped.cursor.mark⟩ kind with
      cursor := skipped.cursor
      keys := .none :: s.keys
      flowLevel := s.flowLevel + 1
      keyAllowed := true
      flowMappingStarted := s.flowMappingStarted || mapping
      pairs := if mapping then s.pairs else .possible :: s.pairs }

/-- Ends the pair without braces that the innermost flow sequence is inside of, if any. -/
def endPair (s : Scanner) : Scanner :=
  match s.pairs with
  | .inside :: ps =>
    { s.push (.empty s.mark) .flowMappingEnd with
      flowMappingStarted := false, pairs := .possible :: ps }
  | _ => s

/-- Leaves a flow collection and gives up its pending key. -/
def leaveFlow (s : Scanner) (kind : TokenKind) : Scanner :=
  let s := { s with
    keyAllowed := false
    flowLevel := s.flowLevel - 1
    keys := if s.flowLevel == 0 then s.keys else s.keys.drop 1 }
  if kind == .flowSequenceEnd then
    let s := s.endPair
    { s with pairs := s.pairs.drop 1 }
  else s

/-- Reads the closing bracket of a flow collection. -/
def fetchFlowEnd (s : Scanner) (kind : TokenKind) : Except ScanError Scanner := do
  let s ← s.removeKey
  let s := s.leaveFlow kind
  let start := s.mark
  let skipped ← (s.cursor.pass 1).skipToLineEnd true
  let c := skipped.cursor
  return { s.push ⟨start, c.mark⟩ kind with
    cursor := c
    adjacentAt := if s.flowLevel == 0 then s.adjacentAt else c.mark.index }

/-- Reads a comma between flow entries. -/
def fetchFlowEntry (s : Scanner) : Except ScanError Scanner := do
  let s ← s.removeKey
  let s := { s with keyAllowed := true }.endPair
  let start := s.mark
  let skipped ← (s.cursor.pass 1).skipToLineEnd true
  return { s.push ⟨start, skipped.cursor.mark⟩ .flowEntry with cursor := skipped.cursor }

/-- Whether the last token names a node at the start of its line, inside a block. -/
def namedAtLineStart (s : Scanner) : Option Mark :=
  match s.tokens.back? with
  | some ⟨e, .anchor _⟩ => if e.start.column == 0 then some e.start else none
  | some ⟨e, .tag _ _⟩ => if e.start.column == 0 then some e.start else none
  | _ => none

/-- Checks that the dash of a block sequence entry may stand at the cursor. -/
def checkEntry (s : Scanner) : Except ScanError Unit :=
  if s.flowLevel != 0 then fail s.mark .entryInFlow
  else if !s.keyAllowed then fail s.mark .entryNotAllowed
  else if s.mark.column == 0 && -1 < s.indent then
    match s.namedAtLineStart with
    | some m => fail m .anchorIndentation
    | none => .ok ()
  else .ok ()

/-- Reads the dash of a block sequence entry. -/
def fetchBlockEntry (s : Scanner) : Except ScanError Scanner := do
  s.checkEntry
  let start := s.mark
  let s := { s with cursor := s.cursor.pass 1 }.roll start.column none .blockSequenceStart start
  let skipped ← s.cursor.skipToLineEnd true
  let c := skipped.cursor
  if skipped.tabs && c.rest.head? == some '-' && endsWord (c.rest.drop 1) then
    fail c.mark .tabAfterDash
  else
    let skipped ← c.skipToLineEnd false
    let c := skipped.cursor
    let s := { s with cursor := c }
    let s := if (!c.rest.isEmpty && endsLine c.rest) || startsFlow c.rest then s.rollOne else s
    let s ← s.removeKey
    return { s.push (.empty c.mark) .blockEntry with keyAllowed := true }

/-- Opens the mapping of an explicit key at the cursor. -/
def openExplicitKey (s : Scanner) : Except ScanError Scanner :=
  if s.flowLevel == 0 then
    if s.keyAllowed then .ok (s.roll s.mark.column none .blockMappingStart s.mark)
    else fail s.mark .keyNotAllowed
  else .ok { s with flowMappingStarted := true }

/-- Reads the question mark of an explicit key. -/
def fetchKey (s : Scanner) : Except ScanError Scanner := do
  let start := s.mark
  let s ← s.openExplicitKey
  let s ← s.removeKey
  let s := { s with keyAllowed := s.flowLevel == 0, cursor := s.cursor.pass 1 }
  let s ← skipWhitespace (s.cursor.rest.length + 1) false s
  if s.cursor.rest.head? == some '\t' then fail s.mark .tabAfterKey
  else return s.push ⟨start, s.mark⟩ .key

/-- Whether the text goes on with a dash or with a character of a word. -/
def startsWord : List Char → Bool
  | [] => false
  | c :: _ => c == '-' || isWord c

/-- Passes over the colon of a value. A tab behind it must not indent the value. -/
def passColon (c : Cursor) : Except ScanError Cursor := do
  let c := c.pass 1
  if c.rest.head? == some '\t' then
    let skipped ← c.skipToLineEnd true
    if !skipped.spaces && startsWord skipped.cursor.rest then
      fail skipped.cursor.mark .tabAfterColon
    else return skipped.cursor
  else return c

/-- Puts the tokens of a key where it started; its colon was found at `start`. -/
def openKey (s : Scanner) (k : PendingKey) (pair : Bool) (start : Mark) :
    Except ScanError Scanner :=
  if pair && k.mark.line < start.line then fail start .colonPlacement
  else
    let s := s.insertAt k.tokenNumber (.empty k.mark) .key
    let s := if pair then s.insertAt k.tokenNumber (.empty k.mark) .flowMappingStart else s
    let s := (s.roll k.mark.column (some k.tokenNumber) .blockMappingStart k.mark).rollOne
    .ok { s with keys := { k with possible := false } :: s.keys.drop 1, keyAllowed := false }

/-- Opens what a colon at `start` opens if no key is in front of it. -/
def openValue (s : Scanner) (pair : Bool) (start : Mark) : Except ScanError Scanner :=
  let s := if pair then s.push (.empty start) .flowMappingStart else s
  if s.flowLevel == 0 && !s.keyAllowed then fail start .valueNotAllowed
  else
    let s := (s.roll start.column none .blockMappingStart start).rollOne
    .ok { s with keyAllowed := s.flowLevel == 0 }

/-- Reads the colon of a value, and puts the tokens of its key where the key started. -/
def fetchValue (s : Scanner) : Except ScanError Scanner := do
  let k := s.keys.headD .none
  let start := s.mark
  let pair := !s.pairs.isEmpty && !s.flowMappingStarted
  let s := if pair then { s with pairs := .inside :: s.pairs.drop 1 } else s
  let c ← passColon s.cursor
  let s := { s with cursor := c }
  let s ← if k.possible then s.openKey k pair start else s.openValue pair start
  return s.push (.empty start) .value

/-- Reads the colon of a value in a flow collection that no blank follows. -/
def fetchFlowValue (s : Scanner) : Except ScanError Scanner :=
  match s.cursor.rest.drop 1 with
  | ch :: _ =>
    if s.mark.index != s.adjacentAt && (ch == '[' || ch == '\x7b') then
      fail s.mark .valueBeforeFlow
    else s.fetchValue
  | [] => s.fetchValue

/-- Reads an anchor or alias, which may start a key. -/
def fetchAnchor (s : Scanner) (isAlias : Bool) : Except ScanError Scanner := do
  let s := s.saveKey
  let r ← Tag.readAnchor isAlias s.cursor
  return { s.accept r with keyAllowed := false }

/-- Reads a tag, which may start a key. -/
def fetchTag (s : Scanner) : Except ScanError Scanner := do
  let s := s.saveKey
  let r ← Tag.readTag (s.flowLevel != 0) s.cursor
  return { s.accept r with keyAllowed := false }

/-- Reads a block scalar. -/
def fetchBlockScalar (s : Scanner) (literal : Bool) : Except ScanError Scanner := do
  let s := s.saveKey.unrollOnes
  let r ← Block.read literal s.indent s.cursor
  return { s.accept r with keyAllowed := true }

/-- Reads a quoted scalar, which may be a key with its colon directly behind it. -/
def fetchQuoted (s : Scanner) (single : Bool) : Except ScanError Scanner := do
  let s := { s.saveKey with keyAllowed := false }
  let (token, c) ← Quoted.read single (s.flowLevel != 0) s.indent s.cursor
  let s ← { s with cursor := c }.skip
  return { s with tokens := s.tokens.push token, adjacentAt := s.mark.index }

/-- Reads a plain scalar, which may be a key. -/
def fetchPlain (s : Scanner) : Except ScanError Scanner := do
  let s := s.saveKey.unrollOnes
  let (token, c) ← Plain.read (s.flowLevel != 0) (s.indent + 1) s.cursor
  return { s.accept (token, c) with keyAllowed := c.fresh }

/-- Reads the token at the cursor, by its first character. -/
def fetchContent (s : Scanner) : Except ScanError Scanner :=
  let flow := s.flowLevel != 0
  match s.cursor.rest with
  | [] => s.fetchStreamEnd
  | ch :: rest =>
    let alone := endsWord rest
    match ch with
    | '[' => s.fetchFlowStart .flowSequenceStart
    | '\x7b' => s.fetchFlowStart .flowMappingStart
    | ']' => s.fetchFlowEnd .flowSequenceEnd
    | '\x7d' => s.fetchFlowEnd .flowMappingEnd
    | ',' => s.fetchFlowEntry
    | '*' => s.fetchAnchor true
    | '&' => s.fetchAnchor false
    | '!' => s.fetchTag
    | '\'' => s.fetchQuoted true
    | '"' => s.fetchQuoted false
    | '-' => if alone then s.fetchBlockEntry else s.fetchPlain
    | '?' => if alone then s.fetchKey else s.fetchPlain
    | ':' =>
      if alone then s.fetchValue
      else if flow && (startsFlow rest || s.mark.index == s.adjacentAt) then s.fetchFlowValue
      else s.fetchPlain
    | '|' => if flow then s.fetchPlain else s.fetchBlockScalar true
    | '>' => if flow then s.fetchPlain else s.fetchBlockScalar false
    | '%' => fail s.mark (.unexpectedCharacter ch)
    | '@' => fail s.mark (.unexpectedCharacter ch)
    | '\x60' => fail s.mark (.unexpectedCharacter ch)
    | _ => s.fetchPlain

/-- Reads the next token and the tokens that its place implies. -/
def fetch (s : Scanner) : Except ScanError Scanner := do
  let s ← s.skip
  let s ← s.dropStaleKeys
  let s := s.unroll s.cursor.column
  if s.cursor.rest.isEmpty then s.fetchStreamEnd
  else if s.mark.column == 0 && s.cursor.rest.head? == some '%' then s.fetchDirective
  else if s.mark.column == 0 && startsDocument s.cursor.rest then s.fetchMarker .documentStart
  else if s.mark.column == 0 && endsDocument s.cursor.rest then s.fetchDocumentEnd
  else if s.cursor.column < s.indent then fail s.mark .indentation
  else s.fetchContent

/-- The tokens in front of which nothing can be put any more. -/
def released (s : Scanner) : List Token :=
  let pending := (s.keys.filter (·.possible)).map (·.tokenNumber)
  s.tokens.toList.take (pending.foldl min s.tokens.size)

/-- Reads tokens to the end of the stream or to a fault. -/
def run : Nat → Scanner → TokenStream
  | 0, s => ⟨s.released, none⟩
  | fuel + 1, s =>
    match s.fetch.bind dropStaleKeys with
    | .error e => ⟨s.released, some e⟩
    | .ok t => if t.ended then ⟨t.tokens.toList, none⟩ else run fuel t

end Scanner

/-- The tokens of a text. Every token but those of the stream's ends reads a character, so the
length of the text is enough fuel. -/
def TokenStream.ofText (text : String) : TokenStream :=
  let s := Scanner.ofText text
  Scanner.run (s.cursor.rest.length + 2) s

end PrimitiveDesk.Yaml
