import PrimitiveDesk.Yaml.Fault

/-!
# Tokens

The tokens of a YAML text. Block collections have tokens for their start and end although no
character of the text stands for them; they follow from the indentation.
-/

namespace PrimitiveDesk.Yaml

/-- The way a scalar is written. -/
inductive Style where
  | plain
  | singleQuoted
  | doubleQuoted
  | literal
  | folded
deriving DecidableEq, Repr

/-- What a token is. -/
inductive TokenKind where
  | streamStart
  | streamEnd
  | versionDirective
  | tagDirective (handle head : String)
  | documentStart
  | documentEnd
  | blockSequenceStart
  | blockMappingStart
  | blockEnd
  | flowSequenceStart
  | flowSequenceEnd
  | flowMappingStart
  | flowMappingEnd
  | blockEntry
  | flowEntry
  | key
  | value
  | alias (name : String)
  | anchor (name : String)
  | tag (handle suffix : String)
  | scalar (style : Style) (text : String)
deriving DecidableEq, Repr

/-- A token with its place in the text. -/
structure Token where
  extent : Extent
  kind : TokenKind
deriving DecidableEq, Repr

/-- The tokens that could be read from a text, and the fault that ended the reading, if any. -/
structure TokenStream where
  tokens : List Token
  error? : Option ScanError

end PrimitiveDesk.Yaml
