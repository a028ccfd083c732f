import SqlDdl.Proofs.Induction
import SqlDdl.Proofs.Texts

/-! The texts of a statement replaced by others, where the tree stays the same. Every kind of node has
its `map`, which keeps the fields that no rendering reads. -/

namespace SqlDdl

/-- What the texts of a statement are replaced by, for each way in which a text is used. -/
structure Rewriting where
  /-- For the name of a column, the star included. -/
  column : String → String := id
  /-- For a name that may be absent, where an empty one counts as absent too. -/
  optName : Option String → Option String := id
  /-- For the name of an index. -/
  indexName : Option String → Option String := id
  /-- For any other name. -/
  name : String → String := id
  /-- For the value of a string literal. -/
  string : String → String := id
  keyword : String → String := id
  /-- For a marker, given the keyword of a set flag. -/
  marker : String → Marker → Marker := fun _ marker => marker
  operator : String → String := id
  aggregate : String → String := id
  typeName : String → String := id

variable (rewriting : Rewriting)

def ColumnRef.map (ref : ColumnRef) : ColumnRef :=
  ⟨rewriting.optName ref.table, rewriting.column ref.column⟩

mutual

def Expr.map : Expr → Expr
  | .column ref => .column (ref.map rewriting)
  | .number value => .number value
  | .string value => .string (rewriting.string value)
  | .quotedString value => .quotedString value
  | .bool value => .bool value
  | .null => .null
  | .star => .star
  | .param name => .param name
  | .binary operator left right parens =>
    .binary (rewriting.operator operator) left.map right.map parens
  | .unary operator operand parens => .unary (rewriting.operator operator) operand.map parens
  | .call name none => .call name none
  | .call name (some args) => .call name (some (Expr.mapItems args))
  | .aggregate name argument distinct =>
    .aggregate (rewriting.aggregate name) argument.map
      (distinct.map (rewriting.marker "DISTINCT"))
  | .list items => .list (Expr.mapItems items)

def Expr.mapItems : List Expr → List Expr
  | [] => []
  | item :: items => item.map :: Expr.mapItems items

end

theorem Expr.mapItems_eq (items : List Expr) :
    mapItems rewriting items = items.map (map rewriting) := by
  induction items with
  | nil => simp only [mapItems, List.map_nil]
  | cons item items ih => simp only [mapItems, List.map_cons, ih]

/-- The bounds of a range stay its bounds. -/
theorem Expr.bounds?_map (right : Expr) :
    (right.map rewriting).bounds? =
      right.bounds?.map fun bounds => (bounds.1.map rewriting, bounds.2.map rewriting) := by
  cases right with
  | list items =>
    rw [map, mapItems_eq]
    match items with
    | [] | [_] | [_, _] | _ :: _ :: _ :: _ => rfl
  | call name args => cases args <;> rfl
  | _ => rfl

def FunctionCall.map (function : FunctionCall) : FunctionCall :=
  { function with args := function.args.map (Expr.mapItems rewriting) }

def TableRef.map (ref : TableRef) : TableRef where
  db := rewriting.optName ref.db
  table := rewriting.name ref.table
  aliasName := rewriting.optName ref.aliasName
  join := ref.join.map rewriting.keyword
  condition := ref.condition.map (Expr.map rewriting)
  shared := ref.shared.map (List.map rewriting.name)

def Tables.map : Tables → Tables
  | many tables => many (tables.map (TableRef.map rewriting))
  | one table => one (table.map rewriting)

def OptionValue.map : OptionValue → OptionValue
  | text value => text value
  | number value => number value
  | expr value => expr (value.map rewriting)

def TableOption.map (option : TableOption) : TableOption :=
  ⟨rewriting.keyword option.keyword, option.symbol, option.value.map rewriting⟩

def SelectColumn.map (column : SelectColumn) : SelectColumn :=
  ⟨column.expr.map rewriting, rewriting.optName column.aliasName⟩

def SelectColumns.map : SelectColumns → SelectColumns
  | star text => star text
  | list columns => list (columns.map (SelectColumn.map rewriting))

def OrderItem.map (item : OrderItem) : OrderItem :=
  ⟨item.expr.map rewriting, item.order.map rewriting.keyword⟩

def Limit.map (limit : Limit) : Limit :=
  ⟨limit.separator.map rewriting.keyword, limit.values.map (Expr.map rewriting)⟩

def Select.map (select : Select) : Select where
  distinct := select.distinct.map (rewriting.marker "DISTINCT")
  columns := select.columns.map rewriting
  source := select.source.map (Tables.map rewriting)
  condition := select.condition.map (Expr.map rewriting)
  groupBy := select.groupBy.map (List.map (Expr.map rewriting))
  having := select.having.map (Expr.map rewriting)
  orderBy := select.orderBy.map (List.map (OrderItem.map rewriting))
  limit := select.limit.map (Limit.map rewriting)
  setOperation := select.setOperation.map rewriting.keyword

def Query.map (query : Query) : Query :=
  ⟨query.first.map rewriting, query.later.map (Select.map rewriting)⟩

def DataType.map (dataType : DataType) : DataType :=
  { dataType with
    name := rewriting.typeName dataType.name
    suffixes := dataType.suffixes.map (List.map rewriting.keyword) }

def KeywordValue.map (value : String → String) (pair : KeywordValue) : KeywordValue :=
  ⟨rewriting.keyword pair.keyword, value pair.value⟩

def KeywordSetting.map (setting : KeywordSetting) : KeywordSetting :=
  { setting with keyword := rewriting.keyword setting.keyword }

def KeywordExpr.map (pair : KeywordExpr) : KeywordExpr :=
  ⟨rewriting.keyword pair.keyword, pair.value.map rewriting⟩

def ExprSetting.map (setting : ExprSetting) : ExprSetting :=
  ⟨rewriting.keyword setting.keyword, setting.symbol, setting.value.map rewriting⟩

def ReferenceDefinition.map (reference : ReferenceDefinition) : ReferenceDefinition where
  table := reference.table.map rewriting
  columns := reference.columns.map (Expr.map rewriting)
  actions := reference.actions.map (KeywordValue.map rewriting rewriting.keyword)

def GeneratedColumn.map (generated : GeneratedColumn) : GeneratedColumn where
  keyword := generated.keyword.map rewriting.keyword
  expr := generated.expr.map rewriting
  storage := generated.storage.map rewriting.keyword

def IndexDefinition.map (index : IndexDefinition) : IndexDefinition where
  keyword := rewriting.keyword index.keyword
  name := rewriting.indexName index.name
  kind := index.kind.map (KeywordValue.map rewriting rewriting.keyword)
  columns := index.columns.map (Expr.map rewriting)
  options := index.options.map (List.map (ExprSetting.map rewriting))

def ConstraintDefinition.map (constraint : ConstraintDefinition) : ConstraintDefinition where
  name := rewriting.optName constraint.name
  keyword := constraint.keyword.map rewriting.keyword
  kind := rewriting.keyword constraint.kind
  index := rewriting.indexName constraint.index
  indexKind := constraint.indexKind.map (KeywordValue.map rewriting rewriting.keyword)
  exprs := constraint.exprs.map (Expr.map rewriting)
  reference := constraint.reference.map (ReferenceDefinition.map rewriting)
  options := constraint.options.map (List.map (ExprSetting.map rewriting))

/-- The column with other texts. The fields that have no rendering stay. -/
def ColumnDefinition.map (column : ColumnDefinition) : ColumnDefinition where
  column := column.column.map rewriting
  dataType := column.dataType.map rewriting
  nullable := column.nullable.map (KeywordValue.map rewriting rewriting.keyword)
  default := column.default.map (KeywordExpr.map rewriting)
  autoIncrement := column.autoIncrement.map rewriting.keyword
  unique := column.unique.map rewriting.keyword
  primaryKey := column.primaryKey.map rewriting.keyword
  collate := column.collate.map (KeywordValue.map rewriting id)
  check := column.check.map (ConstraintDefinition.map rewriting)
  generated := column.generated.map (GeneratedColumn.map rewriting)
  characterSet := column.characterSet.map (KeywordSetting.map rewriting)
  columnFormat := column.columnFormat.map (KeywordValue.map rewriting rewriting.keyword)
  storage := column.storage.map (KeywordValue.map rewriting rewriting.keyword)
  comment := column.comment.map (ExprSetting.map rewriting)
  reference := column.reference.map (ReferenceDefinition.map rewriting)
  extra := column.extra

def Definition.map : Definition → Definition
  | column value => column (value.map rewriting)
  | index value => index (value.map rewriting)
  | constraint value => constraint (value.map rewriting)
  | unsupported resource => unsupported resource

def LikeClause.map (like : LikeClause) : LikeClause :=
  ⟨rewriting.keyword like.keyword, like.table.map rewriting⟩

def TableStatement.map (statement : TableStatement) : TableStatement where
  create := rewriting.keyword statement.create
  temporary := statement.temporary.map (rewriting.marker "TEMPORARY")
  keyword := rewriting.keyword statement.keyword
  table := statement.table.map rewriting
  ifNotExists := statement.ifNotExists.map (rewriting.marker "IF NOT EXISTS")
  like := statement.like.map (LikeClause.map rewriting)
  definitions := statement.definitions.map (List.map (Definition.map rewriting))
  options := statement.options.map (List.map (TableOption.map rewriting))
  ignoreReplace := statement.ignoreReplace.map (rewriting.marker "IGNORE")
  asMarker := statement.asMarker.map (rewriting.marker "AS")
  query := statement.query.map (Query.map rewriting)

def EventColumns.map (columns : EventColumns) : EventColumns :=
  ⟨rewriting.keyword columns.keyword, columns.columns.map (ColumnRef.map rewriting)⟩

def TriggerEvent.map (event : TriggerEvent) : TriggerEvent :=
  ⟨rewriting.keyword event.keyword, event.columns.map (EventColumns.map rewriting)⟩

def KeywordArgs.map (clause : KeywordArgs) : KeywordArgs :=
  ⟨rewriting.keyword clause.keyword, clause.args.map rewriting.keyword⟩

def TriggerCondition.map (clause : TriggerCondition) : TriggerCondition :=
  { clause with
    keyword := rewriting.keyword clause.keyword
    condition := clause.condition.map rewriting }

def TriggerAction.map (action : TriggerAction) : TriggerAction :=
  ⟨rewriting.keyword action.keyword, action.function.map rewriting⟩

def TriggerStatement.map (statement : TriggerStatement) : TriggerStatement where
  create := rewriting.keyword statement.create
  isConstraint := statement.isConstraint.map (rewriting.marker "CONSTRAINT")
  keyword := rewriting.keyword statement.keyword
  name := rewriting.optName statement.name
  location := statement.location.map rewriting.keyword
  events := statement.events.map (TriggerEvent.map rewriting)
  table := statement.table.map rewriting
  source := statement.source.map (TableRef.map rewriting)
  deferrable := statement.deferrable.map (KeywordArgs.map rewriting)
  forEach := statement.forEach.map (KeywordArgs.map rewriting)
  condition := statement.condition.map (TriggerCondition.map rewriting)
  action := statement.action.map rewriting

/-- The statement with other texts. One without a rendering stays. -/
def Statement.map : Statement → Statement
  | table value => table (value.map rewriting)
  | trigger value => trigger (value.map rewriting)
  | unsupported keyword => unsupported keyword

end SqlDdl
