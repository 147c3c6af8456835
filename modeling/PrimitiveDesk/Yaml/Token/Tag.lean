import PrimitiveDesk.Yaml.Token
import PrimitiveDesk.Yaml.Token.Cursor

/-!
# Directives, tags and anchors

The parts of a YAML text that name things: `%YAML` and `%TAG` lines, tags with their handles and
escaped URIs, anchors and aliases. A directive of another name reads as a `%TAG` line with an empty
handle.
-/

namespace PrimitiveDesk.Yaml.Tag

open Text Cursor

/-- Number of bytes of a UTF-8 sequence that starts with the given byte. -/
def sequenceLength? (byte : Nat) : Option Nat :=
  if byte < 0x80 then some 1
  else if byte / 0x20 == 6 then some 2
  else if byte / 0x10 == 14 then some 3
  else if byte / 8 == 30 then some 4
  else none

/-- Reads one escaped byte. -/
def readByte? (c : Cursor) : Option (Nat × Cursor) :=
  match c.rest with
  | '%' :: a :: b :: _ => (readDigits? 16 0 [a, b]).map fun n => (n, c.pass 3)
  | _ => none

/-- Reads the further bytes of an escaped character. The bytes are joined as they stand, so
characters beyond two bytes are no code points. -/
def readTrailing (start : Mark) : Nat → Nat → Cursor → Except ScanError (Nat × Cursor)
  | 0, code, c => .ok (code, c)
  | n + 1, code, c =>
    match readByte? c with
    | none => fail start .uriEscape
    | some (byte, c) =>
      if byte / 0x40 == 2 then readTrailing start n (code * 0x100 + byte) c
      else fail start .uriTrailingByte

/-- Reads an escaped character. -/
def readUriEscape (start : Mark) (c : Cursor) : Except ScanError (Char × Cursor) :=
  match readByte? c with
  | none => fail start .uriEscape
  | some (byte, c) =>
    match sequenceLength? byte with
    | none => fail start .uriLeadingByte
    | some n => do
      let (code, c) ← readTrailing start (n - 1) byte c
      match charOf? code with
      | some ch => .ok (ch, c)
      | none => fail start .uriCodePoint

/-- Reads characters of a class, with escapes; `acc` holds those read, latest first. -/
def readUri (start : Mark) (p : Char → Bool) :
    Nat → List Char → Cursor → Except ScanError (List Char × Cursor)
  | 0, acc, c => .ok (acc, c)
  | fuel + 1, acc, c =>
    match c.rest with
    | [] => .ok (acc, c)
    | ch :: _ =>
      if p ch then
        if ch == '%' then do
          let (e, c) ← readUriEscape start c
          readUri start p fuel (e :: acc) c
        else readUri start p fuel (ch :: acc) (c.pass 1)
      else .ok (acc, c)

/-- Reads a tag handle: `!`, `!!`, `!name!`, or the first part `!name` of a local tag. -/
def readHandle (directive : Bool) (start : Mark) (c : Cursor) :
    Except ScanError (List Char × Cursor) :=
  match c.rest with
  | '!' :: _ =>
    let c := c.pass 1
    let name := c.rest.takeWhile isWord
    let c := c.passBlanks name.length
    match c.rest with
    | '!' :: _ => .ok ('!' :: (name ++ ['!']), c.pass 1)
    | _ =>
      if directive && !name.isEmpty then fail start .tagDirectiveHandle
      else .ok ('!' :: name, c)
  | _ => fail start .tagBang

/-- Reads the URI that a handle stands for: a local one starts with `!`. -/
def readHead (start : Mark) (c : Cursor) : Except ScanError (List Char × Cursor) := do
  match c.rest with
  | '!' :: _ => readUri start isUri (c.rest.length + 1) ['!'] (c.pass 1)
  | '%' :: _ =>
    let (e, c) ← readUriEscape start c
    readUri start isUri (c.rest.length + 1) [e] c
  | ch :: _ =>
    if isTagChar ch then readUri start isUri (c.rest.length + 1) [ch] (c.pass 1)
    else fail start .globalTagCharacter
  | [] => fail start .globalTagCharacter

/-- Reads the digits of a version, of which there are at most nine. -/
def readVersion (start : Mark) (c : Cursor) : Except ScanError Cursor :=
  let n := (c.rest.takeWhile isAsciiDigit).length
  if 9 < n then fail start .versionTooLong
  else if n == 0 then fail start .versionNumber
  else .ok (c.pass n)

/-- Reads the parameters of a `%YAML` line. -/
def readVersionDirective (start : Mark) (c : Cursor) : Except ScanError (Token × Cursor) := do
  let c ← readVersion start (c.passWhile isWhite)
  match c.rest with
  | '.' :: _ =>
    let c ← readVersion start (c.pass 1)
    return (⟨⟨start, c.mark⟩, .versionDirective⟩, c)
  | _ => fail start .versionSeparator

/-- Reads the parameters of a `%TAG` line. -/
def readTagDirective (start : Mark) (c : Cursor) : Except ScanError (Token × Cursor) := do
  let (handle, c) ← readHandle true start (c.passWhile isWhite)
  let (head, c) ← readHead start (c.passWhile isWhite)
  if endsWord c.rest then
    let kind := .tagDirective (String.ofList handle) (String.ofList head.reverse)
    return (⟨⟨start, c.mark⟩, kind⟩, c)
  else fail start .tagDirectiveEnd

/-- Reads a directive line at its percent sign. -/
def readDirective (c : Cursor) : Except ScanError (Token × Cursor) := do
  let start := c.mark
  let c := c.pass 1
  let name := c.rest.takeWhile isWord
  let nameMark := c.mark
  let c := c.passBlanks name.length
  if name.isEmpty then fail nameMark .directiveName
  else if !endsWord c.rest then fail nameMark .directiveNameCharacter
  else
    let (token, c) ←
      if String.ofList name == "YAML" then readVersionDirective start c
      else if String.ofList name == "TAG" then readTagDirective start c
      else
        let c := c.passLine
        .ok (⟨⟨start, c.mark⟩, .tagDirective "" ""⟩, c)
    let skipped ← c.skipToLineEnd true
    if endsLine skipped.cursor.rest then return (token, skipped.cursor.passBreak)
    else fail start .directiveLineEnd

/-- Reads the suffix of a tag behind a handle or the first part of a local tag. -/
def readSuffix (start : Mark) (head : List Char) (c : Cursor) :
    Except ScanError (List Char × Cursor) := do
  let (acc, c') ← readUri start isTagChar (c.rest.length + 1) [] c
  if head.isEmpty && acc.isEmpty then fail start .tagSuffix
  else return (head.drop 1 ++ acc.reverse, c')

/-- Reads a tag at its exclamation mark. -/
def readTag (flow : Bool) (c : Cursor) : Except ScanError (Token × Cursor) := do
  let start := c.mark
  let (handle, suffix, c) ←
    if c.rest.take 2 == ['!', '<'] then do
      let (acc, c) ← readUri start isUri (c.rest.length + 1) [] (c.pass 2)
      match c.rest with
      | '>' :: _ => pure ([], acc.reverse, c.pass 1)
      | _ => fail start .verbatimTagEnd
    else do
      let (handle, c) ← readHandle false start c
      if 2 ≤ handle.length && handle.getLast? == some '!' then do
        let (suffix, c) ← readSuffix start [] c
        pure (handle, suffix, c)
      else do
        let (suffix, c) ← readSuffix start handle c
        pure (if suffix.isEmpty then ([], ['!'], c) else (['!'], suffix, c))
  if endsWord c.rest || (flow && startsFlow c.rest) then
    return (⟨⟨start, c.mark⟩, .tag (String.ofList handle) (String.ofList suffix)⟩, c)
  else fail start .tagEnd

/-- Reads an anchor or alias at its indicator. -/
def readAnchor (isAlias : Bool) (c : Cursor) : Except ScanError (Token × Cursor) :=
  let start := c.mark
  let c := c.pass 1
  let name := c.rest.takeWhile isAnchorChar
  if name.isEmpty then fail start .anchorName
  else
    let c := c.pass name.length
    let name := String.ofList name
    .ok (⟨⟨start, c.mark⟩, if isAlias then .alias name else .anchor name⟩, c)

end PrimitiveDesk.Yaml.Tag
