import PrimitiveDesk.Text.Digit

/-!
# Marks and faults

A mark is a place in a YAML text as its reader counts: characters from the start, lines from one,
columns from zero. A fault is a reason why a text is not YAML; `Fault.message` is the one place that
words it.
-/

namespace PrimitiveDesk.Yaml

/-- A place in a text. -/
structure Mark where
  /-- Number of characters before the place. -/
  index : Nat
  /-- Line number, counted from one. -/
  line : Nat
  /-- Number of characters since the start of the line. -/
  column : Nat
deriving DecidableEq, Repr, Inhabited

namespace Mark

/-- The start of a text. -/
def start : Mark := ⟨0, 1, 0⟩

end Mark

/-- The part of a text between two marks. -/
structure Extent where
  start : Mark
  stop : Mark
deriving DecidableEq, Repr, Inhabited

namespace Extent

/-- The empty extent at a mark. -/
def empty (m : Mark) : Extent := ⟨m, m⟩

end Extent

/-- Why a text is not YAML. -/
inductive Fault where
  | contentAfterDocumentEnd
  | indentation
  | unexpectedCharacter (c : Char)
  | keyWithoutColon
  | tabInIndentation
  | missingWhitespace
  | commentNotSeparated
  | keyMissing
  | directiveLineEnd
  | directiveName
  | directiveNameCharacter
  | versionSeparator
  | versionTooLong
  | versionNumber
  | tagDirectiveEnd
  | tagDirectiveHandle
  | tagEnd
  | tagBang
  | globalTagCharacter
  | verbatimTagEnd
  | tagSuffix
  | uriEscape
  | uriLeadingByte
  | uriTrailingByte
  | uriCodePoint
  | anchorName
  | entryInFlow
  | entryNotAllowed
  | anchorIndentation
  | tabAfterDash
  | blockIndentZero
  | blockHeader
  | blockTab
  | blockIndentation
  | quotedMarker
  | quotedUnclosed
  | quotedIndentation
  | quotedTab
  | quotedTrailing
  | escapeUnknown
  | escapeDigits
  | escapeCode
  | flowIndentation
  | plainDash
  | plainTab
  | plainEmpty
  | keyNotAllowed
  | tabAfterKey
  | valueBeforeFlow
  | tabAfterColon
  | colonPlacement
  | valueNotAllowed
  | flowDepth
  | documentStart
  | repeatedVersion
  | directiveWithoutEnd
  | unknownAnchor
  | undeclaredHandle
  | nodeContent
  | blockMappingKey
  | flowMappingSeparator
  | flowSequenceSeparator
  | blockEntry
deriving DecidableEq, Repr

namespace Fault

/-- The wording of a fault. -/
def message : Fault → String
  | contentAfterDocumentEnd => "invalid content after document end marker"
  | indentation => "invalid indentation"
  | unexpectedCharacter c => "unexpected character: `" ++ String.ofList [c] ++ "'"
  | keyWithoutColon => "simple key expect ':'"
  | tabInIndentation => "tabs disallowed within this context (block indentation)"
  | missingWhitespace => "expected whitespace"
  | commentNotSeparated => "comments must be separated from other tokens by whitespace"
  | keyMissing => "simple key expected"
  | directiveLineEnd => "while scanning a directive, did not find expected comment or line break"
  | directiveName => "while scanning a directive, could not find expected directive name"
  | directiveNameCharacter =>
    "while scanning a directive, found unexpected non-alphabetical character"
  | versionSeparator =>
    "while scanning a YAML directive, did not find expected digit or '.' character"
  | versionTooLong => "while scanning a YAML directive, found extremely long version number"
  | versionNumber => "while scanning a YAML directive, did not find expected version number"
  | tagDirectiveEnd => "while scanning TAG, did not find expected whitespace or line break"
  | tagDirectiveHandle => "while parsing a tag directive, did not find expected '!'"
  | tagEnd => "while scanning a tag, did not find expected whitespace or line break"
  | tagBang => "while scanning a tag, did not find expected '!'"
  | globalTagCharacter => "invalid global tag character"
  | verbatimTagEnd => "while scanning a verbatim tag, did not find the expected '>'"
  | tagSuffix => "while parsing a tag, did not find expected tag URI"
  | uriEscape => "while parsing a tag, found an invalid escape sequence"
  | uriLeadingByte => "while parsing a tag, found an incorrect leading UTF-8 byte"
  | uriTrailingByte => "while parsing a tag, found an incorrect trailing UTF-8 byte"
  | uriCodePoint => "while parsing a tag, found an invalid UTF-8 codepoint"
  | anchorName => "while scanning an anchor or alias, did not find expected alphabetic or " ++
      "numeric character"
  | entryInFlow => "\"-\" is only valid inside a block"
  | entryNotAllowed => "block sequence entries are not allowed in this context"
  | anchorIndentation => "invalid indentation for anchor"
  | tabAfterDash => "'-' must be followed by a valid YAML whitespace"
  | blockIndentZero => "while scanning a block scalar, found an indentation indicator equal to 0"
  | blockHeader => "while scanning a block scalar, did not find expected comment or line break"
  | blockTab => "a block scalar content cannot start with a tab"
  | blockIndentation => "wrongly indented line in block scalar"
  | quotedMarker => "while scanning a quoted scalar, found unexpected document indicator"
  | quotedUnclosed => "while scanning a quoted scalar, found unexpected end of stream"
  | quotedIndentation => "invalid indentation in quoted scalar"
  | quotedTab => "tab cannot be used as indentation"
  | quotedTrailing => "invalid trailing content after double-quoted scalar"
  | escapeUnknown => "while parsing a quoted scalar, found unknown escape character"
  | escapeDigits => "while parsing a quoted scalar, did not find expected hexadecimal number"
  | escapeCode => "while parsing a quoted scalar, found invalid Unicode character escape code"
  | flowIndentation => "invalid indentation in flow construct"
  | plainDash => "plain scalar cannot start with '-' followed by ,[]\x7b\x7d"
  | plainTab => "while scanning a plain scalar, found a tab"
  | plainEmpty => "unexpected end of plain scalar"
  | keyNotAllowed => "mapping keys are not allowed in this context"
  | tabAfterKey => "tabs disallowed in this context"
  | valueBeforeFlow => "':' may not precede any of `[\x7b` in flow mapping"
  | tabAfterColon => "':' must be followed by a valid YAML whitespace"
  | colonPlacement => "illegal placement of ':' indicator"
  | valueNotAllowed => "mapping values are not allowed in this context"
  | flowDepth => "recursion limit exceeded"
  | documentStart => "did not find expected <document start>"
  | repeatedVersion => "duplicate version directive"
  | directiveWithoutEnd => "missing explicit document end marker before directive"
  | unknownAnchor => "while parsing node, found unknown anchor"
  | undeclaredHandle => "the handle wasn't declared"
  | nodeContent => "while parsing a node, did not find expected node content"
  | blockMappingKey => "while parsing a block mapping, did not find expected key"
  | flowMappingSeparator => "while parsing a flow mapping, did not find expected ',' or '\x7d'"
  | flowSequenceSeparator => "while parsing a flow sequence, expected ',' or ']'"
  | blockEntry => "while parsing a block collection, did not find expected '-' indicator"

end Fault

/-- A fault at a place. -/
structure ScanError where
  mark : Mark
  fault : Fault
deriving DecidableEq, Repr

namespace ScanError

/-- The wording of a fault together with its place. -/
def message (e : ScanError) : String :=
  e.fault.message ++ " at byte " ++ Text.decimal e.mark.index ++ " line " ++
    Text.decimal e.mark.line ++ " column " ++ Text.decimal (e.mark.column + 1)

end ScanError

end PrimitiveDesk.Yaml
