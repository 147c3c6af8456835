import PrimitiveDesk.Editor.Finding
import PrimitiveDesk.Server.Uri
import PrimitiveDesk.Text.LineIndex

/-!
# Notices

What the server tells its client without being asked.
-/

namespace PrimitiveDesk

/-- How important a message to the user is. -/
inductive MessageLevel where
  | error
  | warning
  | info
deriving DecidableEq, Repr, Inhabited

/-- A finding as the client shows it, at a range of positions. -/
structure Diagnostic where
  range : Position × Position
  level : FindingLevel
  code : String
  message : String
deriving DecidableEq, Repr

/-- A finding in a text, as the client shows it. -/
def Finding.diagnostic (ix : LineIndex) (f : Finding) : Diagnostic :=
  ⟨ix.range f.span, f.level, f.code, f.message⟩

/-- Something the server tells. -/
inductive Notice where
  /-- All diagnostics of a document, which replace those before. -/
  | diagnostics (uri : Uri) (items : List Diagnostic) (version? : Option Int)
  /-- A message to the user. -/
  | display (level : MessageLevel) (message : String)
  /-- A line of the log. -/
  | log (level : MessageLevel) (message : String)
  /-- The wish to be told when schema sources change. -/
  | watchSchemata
deriving DecidableEq, Repr

end PrimitiveDesk
