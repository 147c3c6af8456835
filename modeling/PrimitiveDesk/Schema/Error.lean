import PrimitiveDesk.Json.Printer

/-!
# Schema errors

Why a schema source does not give a schema, with the wording of each cause.
-/

namespace PrimitiveDesk

/-- What is wrong with a field of a schema source. -/
inductive FieldFault where
  | sectionsExpected
  | fieldsExpected
  | mappingExpected
  | typeNotString (found : Json)
deriving Inhabited, Repr

namespace FieldFault

/-- The wording of a fault. -/
def message : FieldFault → String
  | sectionsExpected => "expected a mapping with `required`/`optional` sections"
  | fieldsExpected => "expected a mapping of fields"
  | mappingExpected => "expected a mapping"
  | typeNotString found => "`type` must be a string, found " ++ found.compact

end FieldFault

/-- Why a schema source does not give a schema. -/
inductive SchemaError where
  | notYaml (message : String)
  | empty
  | multipleDocuments (count : Nat)
  | missingKey (key : String)
  | invalidField (path : String) (fault : FieldFault)
deriving Inhabited, Repr

namespace SchemaError

/-- The wording of an error. -/
def message : SchemaError → String
  | notYaml m => "schema source is not valid YAML: " ++ m
  | empty => "no valid data found in schema source"
  | multipleDocuments n =>
    "expected 1 YAML document in schema source but found " ++ Text.decimal n
  | missingKey k => "required top-level key `" ++ k ++ "` is not present in schema source"
  | invalidField path fault => "invalid schema field `" ++ path ++ "`: " ++ fault.message

end SchemaError

end PrimitiveDesk
