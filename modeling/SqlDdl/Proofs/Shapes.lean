import Mathlib.Data.List.Nodup
import SqlDdl.Statement.Decode

/-! The declared fields of the nodes, and which node a JSON value is decoded as. -/

namespace SqlDdl

/-- The nodes that are decoded from named fields. -/
inductive Node where
  | columnRef
  | arguments
  | aggregateArguments
  | functionCall
  | expr (form : Expr.Form)
  | tableRef
  | tableOption
  | dataType
  | keywordValue
  | indexKind
  | characterSet
  | defaultValue
  | comment
  | indexOption
  | reference
  | generated
  | index
  | constraint
  | column
  | selectColumn
  | orderItem
  | limit
  | select
  | like
  | table
  | eventColumns
  | event
  | keywordArgs
  | triggerCondition
  | triggerAction
  | trigger
  /-- A definition or a statement of a kind that has no rendering. -/
  | unsupported
deriving DecidableEq

/-- The nodes whose shape depends on their value. -/
inductive Choice where
  | expr
  | tables
  | definition
  | statement

/-- What a JSON value is decoded as. -/
inductive Shape where
  /-- A value without nodes in it. -/
  | leaf
  | node (node : Node)
  | list (item : Shape)
  | choice (choice : Choice)

/-- A field of a node. -/
structure Field where
  name : String
  /-- Whether the field is declared as one that may be absent or `null`. -/
  isOptional : Bool
  shape : Shape

/-- A field that does not take `null`. -/
def Field.strict (name : String) (shape : Shape) : Field := ⟨name, false, shape⟩

def Field.optional (name : String) (shape : Shape) : Field := ⟨name, true, shape⟩

namespace Node

/-- The fields of an expression of some form, without the tag. -/
def formFields : Expr.Form → List Field
  | .column => [.optional "table" .leaf, .strict "column" .leaf]
  | .number | .string | .quotedString | .bool | .param => [.strict "value" .leaf]
  | .null | .star => []
  | .binary =>
    [.strict "operator" .leaf, .strict "left" (.choice .expr), .strict "right" (.choice .expr),
      .strict "parentheses" .leaf]
  | .unary =>
    [.strict "operator" .leaf, .strict "expr" (.choice .expr), .strict "parentheses" .leaf]
  | .call => [.strict "name" .leaf, .optional "args" (.node arguments)]
  | .aggregate => [.strict "name" .leaf, .strict "args" (.node aggregateArguments)]
  | .list => [.strict "value" (.list (.choice .expr))]

/-- The fields of a node in the order in which they are declared. -/
def fields : Node → List Field
  | columnRef => [.optional "table" .leaf, .strict "column" .leaf]
  | arguments => [.strict "value" (.list (.choice .expr))]
  | aggregateArguments => [.strict "expr" (.choice .expr), .optional "distinct" .leaf]
  | functionCall => [.strict "name" .leaf, .optional "args" (.node arguments)]
  | expr form => .strict "type" .leaf :: formFields form
  | tableRef =>
    [.optional "db" .leaf, .strict "table" .leaf, .optional "as" .leaf, .optional "join" .leaf,
      .optional "on" (.choice .expr), .optional "using" (.list .leaf)]
  | tableOption =>
    [.strict "keyword" .leaf, .optional "symbol" .leaf, .strict "value" (.choice .expr)]
  | dataType =>
    [.strict "dataType" .leaf, .optional "length" .leaf, .optional "scale" .leaf,
      .optional "suffix" (.list .leaf)]
  | keywordValue => [.strict "type" .leaf, .strict "value" .leaf]
  | indexKind => [.strict "keyword" .leaf, .strict "type" .leaf]
  | characterSet => [.strict "type" .leaf, .optional "symbol" .leaf, .strict "value" .leaf]
  | defaultValue => [.strict "type" .leaf, .strict "value" (.choice .expr)]
  | comment =>
    [.strict "keyword" .leaf, .optional "symbol" .leaf, .strict "value" (.choice .expr)]
  | indexOption =>
    [.strict "type" .leaf, .optional "symbol" .leaf, .strict "expr" (.choice .expr)]
  | reference =>
    [.strict "table" (.choice .tables), .strict "definition" (.list (.choice .expr)),
      .strict "on_action" (.list (.node keywordValue))]
  | generated =>
    [.optional "value" .leaf, .strict "expr" (.choice .expr), .optional "storage_type" .leaf]
  | index =>
    [.strict "keyword" .leaf, .optional "index" .leaf, .optional "index_type" (.node indexKind),
      .strict "definition" (.list (.choice .expr)),
      .optional "index_options" (.list (.node indexOption))]
  | constraint =>
    [.optional "constraint" .leaf, .optional "keyword" .leaf, .strict "constraint_type" .leaf,
      .optional "index" .leaf, .optional "index_type" (.node indexKind),
      .strict "definition" (.list (.choice .expr)),
      .optional "reference_definition" (.node reference),
      .optional "index_options" (.list (.node indexOption))]
  | column =>
    [.strict "column" (.node columnRef), .strict "definition" (.node dataType),
      .optional "nullable" (.node keywordValue), .optional "default_val" (.node defaultValue),
      .optional "auto_increment" .leaf, .optional "unique" .leaf, .optional "primary_key" .leaf,
      .optional "collate" (.node keywordValue), .optional "check" (.node constraint),
      .optional "generated" (.node generated), .optional "character_set" (.node characterSet),
      .optional "column_format" (.node keywordValue), .optional "storage" (.node keywordValue),
      .optional "comment" (.node comment), .optional "reference_definition" (.node reference)]
  | selectColumn => [.strict "expr" (.choice .expr), .optional "as" .leaf]
  | orderItem => [.strict "expr" (.choice .expr), .optional "type" .leaf]
  | limit => [.optional "seperator" .leaf, .strict "value" (.list (.choice .expr))]
  | select =>
    [.optional "distinct" .leaf, .strict "columns" (.list (.node selectColumn)),
      .optional "from" (.choice .tables), .optional "where" (.choice .expr),
      .optional "groupby" (.list (.choice .expr)), .optional "having" (.choice .expr),
      .optional "orderby" (.list (.node orderItem)), .optional "limit" (.node limit),
      .optional "set_op" .leaf, .optional "_next" (.node select)]
  | like => [.strict "type" .leaf, .strict "table" (.choice .tables)]
  | table =>
    [.strict "type" .leaf, .optional "temporary" .leaf, .strict "keyword" .leaf,
      .strict "table" (.choice .tables), .optional "if_not_exists" .leaf,
      .optional "like" (.node like), .optional "create_definitions" (.list (.choice .definition)),
      .optional "table_options" (.list (.node tableOption)), .optional "ignore_replace" .leaf,
      .optional "as" .leaf, .optional "query_expr" (.node select)]
  | eventColumns => [.strict "keyword" .leaf, .strict "columns" (.list (.node columnRef))]
  | event => [.strict "keyword" .leaf, .optional "args" (.node eventColumns)]
  | keywordArgs => [.strict "keyword" .leaf, .optional "args" .leaf]
  | triggerCondition =>
    [.strict "type" .leaf, .strict "cond" (.choice .expr), .strict "parentheses" .leaf]
  | triggerAction => [.strict "keyword" .leaf, .strict "expr" (.node functionCall)]
  | trigger =>
    [.strict "type" .leaf, .optional "constraint_kw" .leaf, .strict "keyword" .leaf,
      .optional "constraint" .leaf, .optional "location" .leaf,
      .strict "events" (.list (.node event)), .strict "table" (.node tableRef),
      .optional "from" (.node tableRef), .optional "deferrable" (.node keywordArgs),
      .optional "for_each" (.node keywordArgs), .optional "when" (.node triggerCondition),
      .strict "execute" (.node triggerAction)]
  | unsupported => []

/-- No two fields of a node have the same name. -/
theorem fields_nodup (node : Node) : (node.fields.map Field.name).Nodup := by
  cases node with
  | expr form => cases form <;> decide +kernel
  | _ => decide +kernel

theorem eq_of_name_eq {node : Node} {first second : Field} (mem : first ∈ node.fields)
    (member : second ∈ node.fields) (same : first.name = second.name) : first = second :=
  List.inj_on_of_nodup_map node.fields_nodup mem member same

end Node

/-- The form of the expression that a value is, as its tag tells it. -/
def Json.form? (json : Json) : Option Expr.Form :=
  let tag? :=
    match json with
    | object entries => entries.lookup "type"
    | array (tag :: _) => some tag
    | _ => none
  tag?.bind fun tag => (Expr.Form.decode .inner tag).toOption

/-- Whether the value is an array or an object. -/
def Json.isNested : Json → Bool
  | array _ | object _ => true
  | _ => false

/-- The shape of a value. Tables are a list if the first item of an array is an array or an object; else
they are a single table. -/
def Choice.shape : Choice → Json → Shape
  | expr, json =>
    match json.form? with
    | some form => .node (.expr form)
    | none => .leaf
  | tables, .array (.array _ :: _) | tables, .array (.object _ :: _) => .list (.node .tableRef)
  | tables, _ => .node .tableRef
  | definition, json =>
    match json.get? "resource" with
    | some (.string "column") => .node .column
    | some (.string "index") => .node .index
    | some (.string "constraint") => .node .constraint
    | _ => .node .unsupported
  | statement, json =>
    match json.get? "keyword" with
    | some (.string keyword) =>
      match lower (trim keyword) with
      | "table" => .node .table
      | "trigger" => .node .trigger
      | _ => .node .unsupported
    | _ => .node .unsupported

end SqlDdl
