import SqlDdl.Definition.Decode
import SqlDdl.Error
import SqlDdl.Json.Reader
import SqlDdl.Select.Decode
import SqlDdl.Statement.Basic

/-! Decoding of statements. -/

namespace SqlDdl

def LikeClause.decode : Decoder LikeClause :=
  Record.decoder "LikeClause" <|
    mk <$> .field "type" Decoder.string <*> .field "table" Tables.decode

def TableStatement.decode : Decoder TableStatement :=
  Record.decoder "TableCreateStatement" <|
    mk <$> .field "type" Decoder.string <*> .optional "temporary" Marker.decode
      <*> .field "keyword" Decoder.string <*> .field "table" Tables.decode
      <*> .optional "if_not_exists" Marker.decode <*> .optional "like" LikeClause.decode
      <*> .optional "create_definitions" (Decoder.list Definition.decode)
      <*> .optional "table_options" (Decoder.list TableOption.decode)
      <*> .optional "ignore_replace" Marker.decode <*> .optional "as" Marker.decode
      <*> .optional "query_expr" Query.decode

def EventColumns.decode : Decoder EventColumns :=
  Record.decoder "EventArgs" <|
    mk <$> .field "keyword" Decoder.string
      <*> .fieldOr "columns" [] (Decoder.list ColumnRef.decode)

def TriggerEvent.decode : Decoder TriggerEvent :=
  Record.decoder "TriggerEvent" <|
    mk <$> .field "keyword" Decoder.string <*> .optional "args" EventColumns.decode

def KeywordArgs.decode : Decoder KeywordArgs :=
  Record.decoder "KeywordArgs" <|
    mk <$> .field "keyword" Decoder.string <*> .optional "args" Decoder.string

def TriggerCondition.decode : Decoder TriggerCondition :=
  Record.decoder "TriggerWhen" <|
    mk <$> .field "type" Decoder.string <*> .field "cond" (Expr.decode .outer)
      <*> .fieldOr "parentheses" false Decoder.bool

def TriggerAction.decode : Decoder TriggerAction :=
  Record.decoder "TriggerExecute" <|
    mk <$> .field "keyword" Decoder.string <*> .field "expr" FunctionCall.decode

def TriggerStatement.decode : Decoder TriggerStatement :=
  Record.decoder "TriggerCreateStatement" <|
    mk <$> .field "type" Decoder.string <*> .optional "constraint_kw" Marker.decode
      <*> .field "keyword" Decoder.string <*> .optional "constraint" Decoder.string
      <*> .optional "location" Decoder.string
      <*> .fieldOr "events" [] (Decoder.list TriggerEvent.decode)
      <*> .field "table" (TableRef.decode .outer) <*> .optional "from" (TableRef.decode .outer)
      <*> .optional "deferrable" KeywordArgs.decode <*> .optional "for_each" KeywordArgs.decode
      <*> .optional "when" TriggerCondition.decode <*> .field "execute" TriggerAction.decode

namespace Statement

/-- Decodes a statement. Its entry `keyword` tells what is created, in any letter case; what is not a
text there is taken by its JSON text. -/
def decode : Decoder Statement := fun json =>
  match json.get? "keyword" with
  | none => .error (.missingField "keyword")
  | some entry =>
    match lower (trim entry.keywordText) with
    | "table" => (TableStatement.decode json).map table
    | "trigger" => (TriggerStatement.decode json).map trigger
    | _ => .ok (unsupported entry.keywordText)

/-- The statement that a JSON value is. -/
def ofJson (json : Json) : Except Error Statement :=
  (decode json).mapError .data

/-- How many arrays and objects may lie inside one another in a text. -/
def maxLevels : Nat := 127

/-- The statement that a JSON text holds. A value that is not a statement is reported before anything
that follows it in the text. -/
def ofText (text : String) : Except Error Statement :=
  match Json.readLeading maxLevels text with
  | none => .error .malformedText
  | some (json, rest) => do
    let statement ← ofJson json
    if rest.all Json.isSpace then .ok statement else .error .malformedText

end Statement

end SqlDdl
