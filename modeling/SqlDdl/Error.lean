import SqlDdl.Json.DecodeError

/-! The errors of the library. -/

namespace SqlDdl

/-- Why a statement was not written, or not even decoded. -/
inductive Error where
  /-- A field holds a value that cannot be written. -/
  | unsupported (statement field value : String)
  /-- A statement lacks something that it must have. -/
  | invalid (statement reason : String)
  /-- No dialect has this name. -/
  | unknownDialect (name : String)
  /-- The JSON value is not the node that was asked for. -/
  | data (error : DecodeError)
  /-- The text is not JSON. -/
  | malformedText

/-- The text of an error, as far as it has one. -/
def Error.message? : Error → Option String
  | unsupported statement field value =>
    some ("Unsupported " ++ field ++ " '" ++ value ++ "' in " ++ statement)
  | invalid statement reason => some ("Invalid " ++ statement ++ " statement: " ++ reason)
  | unknownDialect name => some ("Unknown dialect: " ++ name)
  | data error => error.message?.map ("JSON deserialization error: " ++ ·)
  | malformedText => none

end SqlDdl
