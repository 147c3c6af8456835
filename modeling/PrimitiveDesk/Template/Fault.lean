/-!
# Template faults

Why a template does not render. Only the kind of a fault is told.
-/

namespace PrimitiveDesk.Template

/-- Why a template does not render. -/
inductive Fault where
  /-- The template does not follow the grammar. -/
  | badSource
  /-- A string literal has an escape that does not exist. -/
  | badEscape
  | templateNotFound
  /-- Something was looked up in an undefined value. -/
  | undefinedValue
  | invalidOperation
  | unknownFilter
  | unknownFunction
  | unknownMethod
  | unknownTest
  | missingArgument
  | tooManyArguments
  /-- A value does not fit the names that it is assigned to. -/
  | cannotUnpack
  /-- A template that is included does not render. -/
  | badInclude
deriving DecidableEq, Repr, Inhabited

/-- The wording of a fault. -/
def Fault.message : Fault → String
  | badSource => "syntax error"
  | badEscape => "bad string escape"
  | templateNotFound => "template not found"
  | undefinedValue => "undefined value"
  | invalidOperation => "invalid operation"
  | unknownFilter => "unknown filter"
  | unknownFunction => "unknown function"
  | unknownMethod => "unknown method"
  | unknownTest => "unknown test"
  | missingArgument => "missing argument"
  | tooManyArguments => "too many arguments"
  | cannotUnpack => "cannot unpack"
  | badInclude => "could not render include"

end PrimitiveDesk.Template
