import SqlDdl.Definition.Basic
import SqlDdl.Table.Decode

/-! Decoding of the definitions in the body of a table. -/

namespace SqlDdl

def DataType.decode : Decoder DataType :=
  Record.decoder "DataType" <|
    mk <$> .field "dataType" Decoder.string <*> .optional "length" Decoder.natural
      <*> .optional "scale" Decoder.natural
      <*> .optional "suffix" (Decoder.list Decoder.string)

/-- The fields of a keyword with a text, which are called `keyword` and `value`. -/
def KeywordValue.record (keyword value : String) : Record KeywordValue :=
  mk <$> .field keyword Decoder.string <*> .field value Decoder.string

def KeywordValue.decode : Decoder KeywordValue :=
  (record "type" "value").decoder "KeywordValue"

def KeywordValue.decodeAction : Decoder KeywordValue :=
  (record "type" "value").decoder "ReferentialAction"

def KeywordValue.decodeIndexKind : Decoder KeywordValue :=
  (record "keyword" "type").decoder "IndexType"

def KeywordSetting.decode : Decoder KeywordSetting :=
  Record.decoder "CharacterSet" <|
    mk <$> .field "type" Decoder.string <*> .optional "symbol" Decoder.string
      <*> .field "value" Decoder.string

def KeywordExpr.decode : Decoder KeywordExpr :=
  Record.decoder "DefaultValue" <|
    mk <$> .field "type" Decoder.string <*> .field "value" (Expr.decode .outer)

/-- The fields of a keyword and an expression, which are called `keyword` and `value`. -/
def ExprSetting.record (keyword value : String) : Record ExprSetting :=
  mk <$> .field keyword Decoder.string <*> .optional "symbol" Decoder.string
    <*> .field value (Expr.decode .outer)

def ExprSetting.decodeComment : Decoder ExprSetting :=
  (record "keyword" "value").decoder "CommentClause"

def ExprSetting.decodeIndexOption : Decoder ExprSetting :=
  (record "type" "expr").decoder "IndexOption"

def ReferenceDefinition.decode : Decoder ReferenceDefinition :=
  Record.decoder "ReferenceDefinition" <|
    mk <$> .field "table" Tables.decode
      <*> .fieldOr "definition" [] (Decoder.list (Expr.decode .outer))
      <*> .fieldOr "on_action" [] (Decoder.list KeywordValue.decodeAction)

def GeneratedColumn.decode : Decoder GeneratedColumn :=
  Record.decoder "GeneratedColumn" <|
    mk <$> .optional "value" Decoder.string <*> .field "expr" (Expr.decode .outer)
      <*> .optional "storage_type" Decoder.string

def IndexDefinition.decode : Decoder IndexDefinition :=
  Record.decoder "IndexDefinition" <|
    mk <$> .field "keyword" Decoder.string <*> .optional "index" Decoder.string
      <*> .optional "index_type" KeywordValue.decodeIndexKind
      <*> .fieldOr "definition" [] (Decoder.list (Expr.decode .outer))
      <*> .optional "index_options" (Decoder.list ExprSetting.decodeIndexOption)

def ConstraintDefinition.decode : Decoder ConstraintDefinition :=
  Record.decoder "ConstraintDefinition" <|
    mk <$> .optional "constraint" Decoder.string <*> .optional "keyword" Decoder.string
      <*> .field "constraint_type" Decoder.string <*> .optional "index" Decoder.string
      <*> .optional "index_type" KeywordValue.decodeIndexKind
      <*> .fieldOr "definition" [] (Decoder.list (Expr.decode .outer))
      <*> .optional "reference_definition" ReferenceDefinition.decode
      <*> .optional "index_options" (Decoder.list ExprSetting.decodeIndexOption)

namespace ColumnDefinition

/-- The fields of a column, given the fields without a rendering. -/
def record : Record (Json.Fields → ColumnDefinition) :=
  mk <$> .field "column" ColumnRef.decode <*> .field "definition" DataType.decode
    <*> .optional "nullable" KeywordValue.decode <*> .optional "default_val" KeywordExpr.decode
    <*> .optional "auto_increment" Decoder.string <*> .optional "unique" Decoder.string
    <*> .optional "primary_key" Decoder.string <*> .optional "collate" KeywordValue.decode
    <*> .optional "check" ConstraintDefinition.decode
    <*> .optional "generated" GeneratedColumn.decode
    <*> .optional "character_set" KeywordSetting.decode
    <*> .optional "column_format" KeywordValue.decode <*> .optional "storage" KeywordValue.decode
    <*> .optional "comment" ExprSetting.decodeComment
    <*> .optional "reference_definition" ReferenceDefinition.decode

/-- Decodes a column from an object; an array is not accepted. The entries that are not fields of a
column are kept. -/
def decode : Decoder ColumnDefinition
  | .object entries => do
    let column ← record.ofEntries entries
    return column (.ofEntries (entries.filter fun entry => !record.names.contains entry.1))
  | json => .error (.wrongType json "struct ColumnDefinition")

end ColumnDefinition

/-- Decodes a definition. Its entry `resource` tells the kind; what is not a text there is taken by its
JSON text. -/
def Definition.decode : Decoder Definition := fun json =>
  match json.get? "resource" with
  | none => .error (.missingField "resource")
  | some entry =>
    match entry.keywordText with
    | "column" => (ColumnDefinition.decode json).map column
    | "index" => (IndexDefinition.decode json).map index
    | "constraint" => (ConstraintDefinition.decode json).map constraint
    | resource => .ok (unsupported resource)

end SqlDdl
