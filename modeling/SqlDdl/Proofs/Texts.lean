import SqlDdl.Expr.Render
import SqlDdl.Proofs.Upper
import SqlDdl.Statement.Basic

/-! The texts of a statement that are written, each with the way in which it is written. Every kind of
node has its `texts`, in the order in which they are written. -/

namespace SqlDdl

/-- The way in which a text is written. -/
inductive Role where
  /-- As an identifier, quoted where the configuration asks for it. -/
  | identifier
  /-- As the content of a literal. -/
  | literal
  /-- In the normal form of keywords. -/
  | keyword
  /-- In upper case. -/
  | operator
  | typeName
  | aggregate
  /-- As it is. -/
  | function
  | param
  | verbatim
deriving DecidableEq

/-- Whether texts of a role stand between quotes where they need to. -/
def Role.isQuoted : Role → Bool
  | identifier | literal => true
  | _ => false

/-- A text with its role. -/
abbrev RoleText := Role × String

/-- An optional text, in a role. -/
def roleText? (role : Role) (text : Option String) : List RoleText :=
  text.toList.map (role, ·)

def partTexts {α : Type} (texts : α → List RoleText) (part : Option α) : List RoleText :=
  part.toList.flatMap texts

def listTexts {α : Type} (texts : α → List RoleText) (items : Option (List α)) : List RoleText :=
  (items.getD []).flatMap texts

def Marker.texts : Marker → List RoleText
  | flag _ => []
  | text keyword => [(.keyword, keyword)]

/-- The texts of a column reference. The star is not an identifier, and an empty table is none. -/
def ColumnRef.texts (ref : ColumnRef) : List RoleText :=
  roleText? .identifier (nonempty? ref.table) ++
    if ref.column = "*" then [] else [(.identifier, ref.column)]

mutual

def Expr.texts : Expr → List RoleText
  | .column ref => ref.texts
  | .number _ => []
  | .string value => [(.literal, value)]
  | .quotedString value => [(.literal, value)]
  | .bool _ => []
  | .null => []
  | .star => []
  | .param name => [(.param, name)]
  | .binary operator left right _ => (.operator, operator) :: left.texts ++ right.texts
  | .unary operator operand _ => (.operator, operator) :: operand.texts
  | .call name none => [(.function, name)]
  | .call name (some args) => (.function, name) :: Expr.itemTexts args
  | .aggregate name argument distinct =>
    (.aggregate, name) :: partTexts Marker.texts distinct ++ argument.texts
  | .list items => Expr.itemTexts items

def Expr.itemTexts : List Expr → List RoleText
  | [] => []
  | item :: items => item.texts ++ Expr.itemTexts items

end

theorem Expr.itemTexts_eq (items : List Expr) : itemTexts items = items.flatMap texts := by
  induction items with
  | nil => simp only [itemTexts, List.flatMap_nil]
  | cons item items ih => simp only [itemTexts, List.flatMap_cons, ih]

def FunctionCall.texts (function : FunctionCall) : List RoleText :=
  function.toExpr.texts

def TableRef.texts (ref : TableRef) : List RoleText :=
  roleText? .identifier (nonempty? ref.db) ++ [(.identifier, ref.table)] ++
    roleText? .identifier (nonempty? ref.aliasName) ++ roleText? .keyword ref.join ++
    partTexts Expr.texts ref.condition ++ listTexts (fun column => [(.identifier, column)]) ref.shared

def Tables.texts (tables : Tables) : List RoleText :=
  tables.toList.flatMap TableRef.texts

def OptionValue.texts : OptionValue → List RoleText
  | text value => [(.verbatim, value)]
  | number _ => []
  | expr value => value.texts

def TableOption.texts (option : TableOption) : List RoleText :=
  (.keyword, option.keyword) :: roleText? .verbatim option.symbol ++ option.value.texts

def SelectColumn.texts (column : SelectColumn) : List RoleText :=
  column.expr.texts ++ roleText? .identifier (nonempty? column.aliasName)

def SelectColumns.texts : SelectColumns → List RoleText
  | star text => [(.verbatim, text)]
  | list columns => columns.flatMap SelectColumn.texts

def OrderItem.texts (item : OrderItem) : List RoleText :=
  item.expr.texts ++ roleText? .keyword item.order

def Limit.texts (limit : Limit) : List RoleText :=
  roleText? .keyword limit.separator ++ limit.values.flatMap Expr.texts

def Select.texts (select : Select) : List RoleText :=
  partTexts Marker.texts select.distinct ++ select.columns.texts ++
    partTexts Tables.texts select.source ++ partTexts Expr.texts select.condition ++
    listTexts Expr.texts select.groupBy ++ partTexts Expr.texts select.having ++
    listTexts OrderItem.texts select.orderBy ++ partTexts Limit.texts select.limit ++
    roleText? .keyword select.setOperation

def Query.texts (query : Query) : List RoleText :=
  query.first.texts ++ query.later.flatMap Select.texts

def DataType.texts (dataType : DataType) : List RoleText :=
  (.typeName, dataType.name) ::
    listTexts (fun suffix => [(.keyword, suffix)]) dataType.suffixes

def KeywordValue.texts (role : Role) (pair : KeywordValue) : List RoleText :=
  [(.keyword, pair.keyword), (role, pair.value)]

def KeywordSetting.texts (setting : KeywordSetting) : List RoleText :=
  (.keyword, setting.keyword) :: roleText? .verbatim setting.symbol ++ [(.verbatim, setting.value)]

def KeywordExpr.texts (pair : KeywordExpr) : List RoleText :=
  (.keyword, pair.keyword) :: pair.value.texts

def ExprSetting.texts (setting : ExprSetting) : List RoleText :=
  (.keyword, setting.keyword) :: roleText? .verbatim setting.symbol ++ setting.value.texts

def ReferenceDefinition.texts (reference : ReferenceDefinition) : List RoleText :=
  reference.table.texts ++ reference.columns.flatMap Expr.texts ++
    reference.actions.flatMap (KeywordValue.texts .keyword)

def GeneratedColumn.texts (generated : GeneratedColumn) : List RoleText :=
  roleText? .keyword generated.keyword ++ generated.expr.texts ++
    roleText? .keyword generated.storage

def IndexDefinition.texts (index : IndexDefinition) : List RoleText :=
  (.keyword, index.keyword) :: roleText? .identifier index.name ++
    partTexts (KeywordValue.texts .keyword) index.kind ++ index.columns.flatMap Expr.texts ++
    listTexts ExprSetting.texts index.options

def ConstraintDefinition.texts (constraint : ConstraintDefinition) : List RoleText :=
  roleText? .identifier (nonempty? constraint.name) ++ roleText? .keyword constraint.keyword ++
    [(.keyword, constraint.kind)] ++ roleText? .identifier constraint.index ++
    partTexts (KeywordValue.texts .keyword) constraint.indexKind ++
    constraint.exprs.flatMap Expr.texts ++
    partTexts ReferenceDefinition.texts constraint.reference ++
    listTexts ExprSetting.texts constraint.options

/-- The texts of a column. Of the pair that says whether it may be null only the second text is
written. -/
def ColumnDefinition.texts (column : ColumnDefinition) : List RoleText :=
  column.column.texts ++ column.dataType.texts ++
    roleText? .keyword (column.nullable.map (·.value)) ++
    partTexts KeywordExpr.texts column.default ++ roleText? .keyword column.autoIncrement ++
    roleText? .keyword column.unique ++ roleText? .keyword column.primaryKey ++
    partTexts (KeywordValue.texts .verbatim) column.collate ++
    partTexts ConstraintDefinition.texts column.check ++
    partTexts GeneratedColumn.texts column.generated ++
    partTexts KeywordSetting.texts column.characterSet ++
    partTexts (KeywordValue.texts .keyword) column.columnFormat ++
    partTexts (KeywordValue.texts .keyword) column.storage ++
    partTexts ExprSetting.texts column.comment ++
    partTexts ReferenceDefinition.texts column.reference

/-- The texts of a definition. One without a rendering has none. -/
def Definition.texts : Definition → List RoleText
  | column value => value.texts
  | index value => value.texts
  | constraint value => value.texts
  | unsupported _ => []

def LikeClause.texts (like : LikeClause) : List RoleText :=
  (.keyword, like.keyword) :: like.table.texts

def TableStatement.texts (statement : TableStatement) : List RoleText :=
  (.keyword, statement.create) :: partTexts Marker.texts statement.temporary ++
    [(.keyword, statement.keyword)] ++ statement.table.texts ++
    partTexts Marker.texts statement.ifNotExists ++ partTexts LikeClause.texts statement.like ++
    listTexts Definition.texts statement.definitions ++
    listTexts TableOption.texts statement.options ++
    partTexts Marker.texts statement.ignoreReplace ++ partTexts Marker.texts statement.asMarker ++
    partTexts Query.texts statement.query

def EventColumns.texts (columns : EventColumns) : List RoleText :=
  (.keyword, columns.keyword) :: columns.columns.flatMap ColumnRef.texts

def TriggerEvent.texts (event : TriggerEvent) : List RoleText :=
  (.keyword, event.keyword) :: partTexts EventColumns.texts event.columns

def KeywordArgs.texts (clause : KeywordArgs) : List RoleText :=
  (.keyword, clause.keyword) :: roleText? .keyword clause.args

def TriggerCondition.texts (clause : TriggerCondition) : List RoleText :=
  (.keyword, clause.keyword) :: clause.condition.texts

def TriggerAction.texts (action : TriggerAction) : List RoleText :=
  (.keyword, action.keyword) :: action.function.texts

def TriggerStatement.texts (statement : TriggerStatement) : List RoleText :=
  (.keyword, statement.create) :: partTexts Marker.texts statement.isConstraint ++
    [(.keyword, statement.keyword)] ++ roleText? .identifier (nonempty? statement.name) ++
    roleText? .keyword statement.location ++ statement.events.flatMap TriggerEvent.texts ++
    statement.table.texts ++ partTexts TableRef.texts statement.source ++
    partTexts KeywordArgs.texts statement.deferrable ++
    partTexts KeywordArgs.texts statement.forEach ++
    partTexts TriggerCondition.texts statement.condition ++ statement.action.texts

/-- The texts of a statement. One without a rendering has none. -/
def Statement.texts : Statement → List RoleText
  | table value => value.texts
  | trigger value => value.texts
  | unsupported _ => []

/-- Whether no character of a list is in any of the texts, except those that are quoted where they need
to be. -/
def Avoids (marks : List Char) (texts : List RoleText) : Prop :=
  ∀ entry ∈ texts, entry.1.isQuoted = false → Without marks entry.2

instance (marks : List Char) (texts : List RoleText) : Decidable (Avoids marks texts) :=
  List.decidableBAll (fun entry : RoleText => entry.1.isQuoted = false → Without marks entry.2) texts

section Avoids

variable {marks : List Char}

theorem avoids_cons {entry : RoleText} {texts : List RoleText} :
    Avoids marks (entry :: texts) ↔ Avoids marks [entry] ∧ Avoids marks texts := by
  simp [Avoids]

theorem avoids_singleton {role : Role} {text : String} (bare : role.isQuoted = false) :
    Avoids marks [(role, text)] ↔ Without marks text := by
  simp only [Avoids, List.mem_singleton, forall_eq]
  exact ⟨fun clean => clean bare, fun clean _ => clean⟩

theorem avoids_append {first second : List RoleText} :
    Avoids marks (first ++ second) ↔ Avoids marks first ∧ Avoids marks second := by
  simp only [Avoids, List.forall_mem_append]

theorem avoids_flatMap {α : Type} {texts : α → List RoleText} {items : List α} :
    Avoids marks (items.flatMap texts) ↔ ∀ item ∈ items, Avoids marks (texts item) := by
  constructor
  · exact fun clean item member entry inside =>
      clean entry (List.mem_flatMap.mpr ⟨item, member, inside⟩)
  · intro clean entry inside
    obtain ⟨item, member, found⟩ := List.mem_flatMap.mp inside
    exact clean item member entry found

theorem avoids_partTexts {α : Type} {texts : α → List RoleText} {part : Option α} :
    Avoids marks (partTexts texts part) ↔ ∀ value, part = some value → Avoids marks (texts value) := by
  simp only [partTexts, avoids_flatMap, Option.mem_toList]

end Avoids

end SqlDdl
