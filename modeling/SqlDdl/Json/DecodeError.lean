import SqlDdl.Json.Printer
import SqlDdl.Text.Escaped

/-! Why a JSON value is not the node that was asked for. -/

namespace SqlDdl

/-- How a value is named in an error. -/
def Json.described : Json → String
  | null => "null"
  | bool value => "boolean `" ++ (if value then "true" else "false") ++ "`"
  | number (.integer value) => "integer `" ++ (Number.integer value).text ++ "`"
  | number (.double value) => "floating point `" ++ value.text ++ "`"
  | string value => "string " ++ showText value
  | array _ => "sequence"
  | object _ => "map"

/-- Why a JSON value is not the node that was asked for. -/
inductive DecodeError where
  /-- A field that must be present is not. -/
  | missingField (name : String)
  /-- The value is of another kind. -/
  | wrongType (found : Json) (expected : String)
  /-- The integer is out of range. -/
  | wrongInteger (found : Int) (expected : String)
  /-- The tag of an expression is not one of the known ones. -/
  | unknownVariant (name : String) (known : List String)
  /-- None of the shapes of a choice fits. -/
  | noAlternative (choice : String)
  /-- An array has too few or too many items for the fields of a node. -/
  | wrongLength

/-- The text of an error. The number of items is not described. -/
def DecodeError.message? : DecodeError → Option String
  | missingField name => some ("missing field `" ++ name ++ "`")
  | wrongType found expected =>
    some ("invalid type: " ++ found.described ++ ", expected " ++ expected)
  | wrongInteger found expected =>
    some ("invalid value: integer `" ++ (Number.integer found).text ++ "`, expected " ++ expected)
  | unknownVariant name known =>
    some ("unknown variant `" ++ name ++ "`, expected one of " ++
      ", ".intercalate (known.map fun other => "`" ++ other ++ "`"))
  | noAlternative choice =>
    some ("data did not match any variant of untagged enum " ++ choice)
  | wrongLength => none

end SqlDdl
