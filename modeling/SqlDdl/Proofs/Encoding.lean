import SqlDdl.Proofs.Shapes

/-! The JSON values of statements. Every node is an object of its declared fields, from which the absent ones
are left out. -/

namespace SqlDdl

namespace Json

/-- The fields that are present. -/
def present (members : List (String × Option Json)) : List (String × Json) :=
  members.filterMap fun member => member.2.map fun value => (member.1, value)

/-- An object of the fields that are present. -/
def ofMembers (members : List (String × Option Json)) : Json :=
  .object (sortEntries (present members))

/-- An object of fields and a text that tells which node it is. -/
def tagged (key tag : String) (members : List (String × Option Json)) : Json :=
  ofMembers ((key, some (.string tag)) :: members)

def ofNat (value : Nat) : Json := .number (.integer value)

def ofList {α : Type} (encode : α → Json) (items : List α) : Json := .array (items.map encode)

end Json

open Json

def Marker.toJson : Marker → Json
  | flag isSet => .bool isSet
  | text keyword => .string keyword

def ColumnRef.members (ref : ColumnRef) : List (String × Option Json) :=
  [("table", ref.table.map .string), ("column", some (.string ref.column))]

def ColumnRef.toJson (ref : ColumnRef) : Json := .ofMembers ref.members

namespace Expr

mutual

/-- The tag of an expression is one of its fields. -/
def toJson : Expr → Json
  | column ref => .tagged "type" "column_ref" ref.members
  | number value => .tagged "type" "number" [("value", some (.number value))]
  | string value => .tagged "type" "string" [("value", some (.string value))]
  | quotedString value => .tagged "type" "double_quote_string" [("value", some (.string value))]
  | bool value => .tagged "type" "bool" [("value", some (.bool value))]
  | null => .tagged "type" "null" []
  | star => .tagged "type" "star" []
  | param name => .tagged "type" "param" [("value", some (.string name))]
  | binary operator left right parenthesized => .tagged "type" "binary_expr"
    [("operator", some (.string operator)), ("left", some left.toJson), ("right", some right.toJson),
      ("parentheses", some (.bool parenthesized))]
  | unary operator operand parenthesized => .tagged "type" "unary_expr"
    [("operator", some (.string operator)), ("expr", some operand.toJson),
      ("parentheses", some (.bool parenthesized))]
  | call name none => .tagged "type" "function" [("name", some (.string name)), ("args", none)]
  | call name (some args) => .tagged "type" "function"
    [("name", some (.string name)),
      ("args", some (.ofMembers [("value", some (.array (itemsToJson args)))]))]
  | aggregate name argument distinct => .tagged "type" "aggr_func"
    [("name", some (.string name)),
      ("args", some (.ofMembers [("expr", some argument.toJson), ("distinct", distinct.map Marker.toJson)]))]
  | list items => .tagged "type" "expr_list" [("value", some (.array (itemsToJson items)))]

def itemsToJson : List Expr → List Json
  | [] => []
  | item :: items => item.toJson :: itemsToJson items

end

def argsToJson (args : List Expr) : Json := .ofMembers [("value", some (.ofList toJson args))]

end Expr

def FunctionCall.toJson (function : FunctionCall) : Json :=
  .ofMembers [("name", some (.string function.name)), ("args", function.args.map Expr.argsToJson)]

def TableRef.toJson (ref : TableRef) : Json :=
  .ofMembers [("db", ref.db.map .string), ("table", some (.string ref.table)),
    ("as", ref.aliasName.map .string), ("join", ref.join.map .string),
    ("on", ref.condition.map Expr.toJson), ("using", ref.shared.map (.ofList .string))]

def Tables.toJson : Tables → Json
  | many tables => .ofList TableRef.toJson tables
  | one table => table.toJson

def OptionValue.toJson : OptionValue → Json
  | text value => .string value
  | number value => .number value
  | expr value => value.toJson

def TableOption.toJson (option : TableOption) : Json :=
  .ofMembers [("keyword", some (.string option.keyword)), ("symbol", option.symbol.map .string),
    ("value", some option.value.toJson)]

def DataType.toJson (dataType : DataType) : Json :=
  .ofMembers [("dataType", some (.string dataType.name)), ("length", dataType.length.map .ofNat),
    ("scale", dataType.scale.map .ofNat), ("suffix", dataType.suffixes.map (.ofList .string))]

/-- A keyword and a text under the given names. -/
def KeywordValue.toJson (keyword value : String) (pair : KeywordValue) : Json :=
  .ofMembers [(keyword, some (.string pair.keyword)), (value, some (.string pair.value))]

def KeywordSetting.toJson (setting : KeywordSetting) : Json :=
  .ofMembers [("type", some (.string setting.keyword)), ("symbol", setting.symbol.map .string),
    ("value", some (.string setting.value))]

def KeywordExpr.toJson (value : KeywordExpr) : Json :=
  .ofMembers [("type", some (.string value.keyword)), ("value", some value.value.toJson)]

/-- A keyword and an expression under the given names. -/
def ExprSetting.toJson (keyword value : String) (setting : ExprSetting) : Json :=
  .ofMembers [(keyword, some (.string setting.keyword)), ("symbol", setting.symbol.map .string),
    (value, some setting.value.toJson)]

def ReferenceDefinition.toJson (reference : ReferenceDefinition) : Json :=
  .ofMembers [("table", some reference.table.toJson),
    ("definition", some (.ofList Expr.toJson reference.columns)),
    ("on_action", some (.ofList (KeywordValue.toJson "type" "value") reference.actions))]

def GeneratedColumn.toJson (generated : GeneratedColumn) : Json :=
  .ofMembers [("value", generated.keyword.map .string), ("expr", some generated.expr.toJson),
    ("storage_type", generated.storage.map .string)]

def indexOptionsToJson (options : List ExprSetting) : Json :=
  .ofList (ExprSetting.toJson "type" "expr") options

def IndexDefinition.members (index : IndexDefinition) : List (String × Option Json) :=
  [("keyword", some (.string index.keyword)), ("index", index.name.map .string),
    ("index_type", index.kind.map (KeywordValue.toJson "keyword" "type")),
    ("definition", some (.ofList Expr.toJson index.columns)),
    ("index_options", index.options.map indexOptionsToJson)]

def ConstraintDefinition.members (constraint : ConstraintDefinition) : List (String × Option Json) :=
  [("constraint", constraint.name.map .string), ("keyword", constraint.keyword.map .string),
    ("constraint_type", some (.string constraint.kind)), ("index", constraint.index.map .string),
    ("index_type", constraint.indexKind.map (KeywordValue.toJson "keyword" "type")),
    ("definition", some (.ofList Expr.toJson constraint.exprs)),
    ("reference_definition", constraint.reference.map ReferenceDefinition.toJson),
    ("index_options", constraint.options.map indexOptionsToJson)]

def ConstraintDefinition.toJson (constraint : ConstraintDefinition) : Json :=
  .ofMembers constraint.members

namespace ColumnDefinition

def members (column : ColumnDefinition) : List (String × Option Json) :=
  [("column", some column.column.toJson), ("definition", some column.dataType.toJson),
    ("nullable", column.nullable.map (KeywordValue.toJson "type" "value")),
    ("default_val", column.default.map KeywordExpr.toJson),
    ("auto_increment", column.autoIncrement.map .string), ("unique", column.unique.map .string),
    ("primary_key", column.primaryKey.map .string),
    ("collate", column.collate.map (KeywordValue.toJson "type" "value")),
    ("check", column.check.map ConstraintDefinition.toJson),
    ("generated", column.generated.map GeneratedColumn.toJson),
    ("character_set", column.characterSet.map KeywordSetting.toJson),
    ("column_format", column.columnFormat.map (KeywordValue.toJson "type" "value")),
    ("storage", column.storage.map (KeywordValue.toJson "type" "value")),
    ("comment", column.comment.map (ExprSetting.toJson "keyword" "value")),
    ("reference_definition", column.reference.map ReferenceDefinition.toJson)]

/-- The fields that have no rendering stand beside the declared ones. -/
def toJson (column : ColumnDefinition) : Json :=
  .object (sortEntries (present column.members ++ column.extra.entries))

end ColumnDefinition

def Definition.toJson : Definition → Json
  | column value => value.toJson
  | index value => .tagged "resource" "index" value.members
  | constraint value => .tagged "resource" "constraint" value.members
  | unsupported resource => .tagged "resource" resource []

def SelectColumn.toJson (column : SelectColumn) : Json :=
  .ofMembers [("expr", some column.expr.toJson), ("as", column.aliasName.map .string)]

def SelectColumns.toJson : SelectColumns → Json
  | star text => .string text
  | list columns => .ofList SelectColumn.toJson columns

def OrderItem.toJson (item : OrderItem) : Json :=
  .ofMembers [("expr", some item.expr.toJson), ("type", item.order.map .string)]

def Limit.toJson (limit : Limit) : Json :=
  .ofMembers [("seperator", limit.separator.map .string), ("value", some (.ofList Expr.toJson limit.values))]

def Select.members (select : Select) : List (String × Option Json) :=
  [("distinct", select.distinct.map Marker.toJson), ("columns", some select.columns.toJson),
    ("from", select.source.map Tables.toJson), ("where", select.condition.map Expr.toJson),
    ("groupby", select.groupBy.map (.ofList Expr.toJson)), ("having", select.having.map Expr.toJson),
    ("orderby", select.orderBy.map (.ofList OrderItem.toJson)), ("limit", select.limit.map Limit.toJson),
    ("set_op", select.setOperation.map .string)]

/-- A select with the ones that follow it inside of it. -/
def Select.chainToJson (first : Select) : List Select → Json
  | [] => .ofMembers (first.members ++ [("_next", none)])
  | next :: later => .ofMembers (first.members ++ [("_next", some (next.chainToJson later))])

def Query.toJson (query : Query) : Json := query.first.chainToJson query.later

def LikeClause.toJson (like : LikeClause) : Json :=
  .ofMembers [("type", some (.string like.keyword)), ("table", some like.table.toJson)]

def TableStatement.members (statement : TableStatement) : List (String × Option Json) :=
  [("type", some (.string statement.create)), ("temporary", statement.temporary.map Marker.toJson),
    ("keyword", some (.string statement.keyword)), ("table", some statement.table.toJson),
    ("if_not_exists", statement.ifNotExists.map Marker.toJson),
    ("like", statement.like.map LikeClause.toJson),
    ("create_definitions", statement.definitions.map (.ofList Definition.toJson)),
    ("table_options", statement.options.map (.ofList TableOption.toJson)),
    ("ignore_replace", statement.ignoreReplace.map Marker.toJson),
    ("as", statement.asMarker.map Marker.toJson), ("query_expr", statement.query.map Query.toJson)]

def TableStatement.toJson (statement : TableStatement) : Json := .ofMembers statement.members

def EventColumns.toJson (columns : EventColumns) : Json :=
  .ofMembers [("keyword", some (.string columns.keyword)),
    ("columns", some (.ofList ColumnRef.toJson columns.columns))]

def TriggerEvent.toJson (event : TriggerEvent) : Json :=
  .ofMembers [("keyword", some (.string event.keyword)), ("args", event.columns.map EventColumns.toJson)]

def KeywordArgs.toJson (clause : KeywordArgs) : Json :=
  .ofMembers [("keyword", some (.string clause.keyword)), ("args", clause.args.map .string)]

def TriggerCondition.toJson (clause : TriggerCondition) : Json :=
  .ofMembers [("type", some (.string clause.keyword)), ("cond", some clause.condition.toJson),
    ("parentheses", some (.bool clause.parenthesized))]

def TriggerAction.toJson (action : TriggerAction) : Json :=
  .ofMembers [("keyword", some (.string action.keyword)), ("expr", some action.function.toJson)]

def TriggerStatement.members (statement : TriggerStatement) : List (String × Option Json) :=
  [("type", some (.string statement.create)),
    ("constraint_kw", statement.isConstraint.map Marker.toJson),
    ("keyword", some (.string statement.keyword)), ("constraint", statement.name.map .string),
    ("location", statement.location.map .string),
    ("events", some (.ofList TriggerEvent.toJson statement.events)),
    ("table", some statement.table.toJson), ("from", statement.source.map TableRef.toJson),
    ("deferrable", statement.deferrable.map KeywordArgs.toJson),
    ("for_each", statement.forEach.map KeywordArgs.toJson),
    ("when", statement.condition.map TriggerCondition.toJson),
    ("execute", some statement.action.toJson)]

def TriggerStatement.toJson (statement : TriggerStatement) : Json := .ofMembers statement.members

def Statement.toJson : Statement → Json
  | table value => value.toJson
  | trigger value => value.toJson
  | unsupported keyword => .tagged "keyword" keyword []

/-- Whether the numbers of a type fit in 64 bits. -/
def DataType.IsEncodable (dataType : DataType) : Prop :=
  (∀ length ∈ dataType.length, length ≤ 0xffffffffffffffff) ∧
    ∀ scale ∈ dataType.scale, scale ≤ 0xffffffffffffffff

/-- Whether the fields of a column that have no rendering name its kind and none of the declared fields. -/
def ColumnDefinition.IsEncodable (column : ColumnDefinition) : Prop :=
  column.dataType.IsEncodable ∧ column.extra.entries.lookup "resource" = some (.string "column") ∧
    ∀ field ∈ Node.column.fields, column.extra.entries.lookup field.name = none

/-- Whether the kind of a definition is what its value is decoded as. -/
def Definition.IsEncodable : Definition → Prop
  | column value => value.IsEncodable
  | index _ | constraint _ => True
  | unsupported resource => resource ≠ "column" ∧ resource ≠ "index" ∧ resource ≠ "constraint"

/-- Whether the keyword of a statement is that of its kind. -/
def Statement.IsEncodable : Statement → Prop
  | table value => lower (trim value.keyword) = "table" ∧
    ∀ definitions ∈ value.definitions, ∀ definition ∈ definitions, definition.IsEncodable
  | trigger value => lower (trim value.keyword) = "trigger"
  | unsupported keyword => lower (trim keyword) ≠ "table" ∧ lower (trim keyword) ≠ "trigger"

end SqlDdl
