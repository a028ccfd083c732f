import SqlDdl.Proofs.Rewriting

/-! A rewriting of identifiers that leaves every identifier of a tree as it is leaves the tree as it
is. -/

namespace SqlDdl

/-- Replaces every identifier. The star of a column and an empty name that may be absent are none. -/
def Rewriting.naming (write : String → String) : Rewriting where
  column name := if name = "*" then "*" else write name
  optName name := name.map fun name => if name = "" then "" else write name
  indexName := Option.map write
  name := write

/-- Whether a function leaves every identifier among some texts as it is. -/
def Fixes (write : String → String) (texts : List RoleText) : Prop :=
  ∀ name, (.identifier, name) ∈ texts → write name = name

section Fixes

variable {write : String → String}

theorem fixes_cons {entry : RoleText} {texts : List RoleText} :
    Fixes write (entry :: texts) ↔ Fixes write [entry] ∧ Fixes write texts := by
  simp only [Fixes, List.mem_cons, List.not_mem_nil, or_false, or_imp, forall_and]

theorem fixes_append {first second : List RoleText} :
    Fixes write (first ++ second) ↔ Fixes write first ∧ Fixes write second := by
  simp only [Fixes, List.mem_append, or_imp, forall_and]

theorem Fixes.name {name : String} (fixed : Fixes write [(.identifier, name)]) : write name = name :=
  fixed name (List.mem_singleton_self _)

theorem Fixes.indexName {name : Option String} (fixed : Fixes write (roleText? .identifier name)) :
    name.map write = name := by
  cases name with
  | none => rfl
  | some name => exact congrArg some fixed.name

theorem Fixes.optName {name : Option String}
    (fixed : Fixes write (roleText? .identifier (nonempty? name))) :
    (Rewriting.naming write).optName name = name := by
  cases name with
  | none => rfl
  | some name =>
    refine congrArg some (show (if name = "" then "" else write name) = name from ?_)
    split
    · rename_i empty
      exact empty.symm
    · rename_i filled
      have present : nonempty? (some name) = some name :=
        Option.filter_eq_some_iff.mpr ⟨rfl, by simpa using filled⟩
      rw [present] at fixed
      exact fixed.name

theorem Fixes.items {α : Type} {texts : α → List RoleText} {change : α → α} {items : List α}
    (fixed : Fixes write (items.flatMap texts))
    (each : ∀ item ∈ items, Fixes write (texts item) → change item = item) :
    items.map change = items := by
  have same : ∀ item ∈ items, change item = id item := fun item inside =>
    each item inside fun name member => fixed name (List.mem_flatMap.mpr ⟨item, inside, member⟩)
  rw [List.map_congr_left same, List.map_id]

theorem Fixes.part {α : Type} {texts : α → List RoleText} {change : α → α} {part : Option α}
    (fixed : Fixes write (partTexts texts part))
    (each : ∀ value, Fixes write (texts value) → change value = value) : part.map change = part := by
  cases part with
  | none => rfl
  | some value =>
    rw [partTexts, Option.toList_some, List.flatMap_singleton] at fixed
    exact congrArg some (each value fixed)

theorem Fixes.list {α : Type} {texts : α → List RoleText} {change : α → α} {items : Option (List α)}
    (fixed : Fixes write (listTexts texts items))
    (each : ∀ item, Fixes write (texts item) → change item = item) :
    items.map (List.map change) = items := by
  cases items with
  | none => rfl
  | some items =>
    exact congrArg some (Fixes.items fixed fun item _ => each item)

end Fixes

variable {write : String → String}

theorem ColumnRef.map_naming (ref : ColumnRef) (fixed : Fixes write ref.texts) :
    ref.map (.naming write) = ref := by
  rw [texts, fixes_append] at fixed
  obtain ⟨table, column⟩ := fixed
  have same : (Rewriting.naming write).column ref.column = ref.column := by
    simp only [Rewriting.naming]
    split at column
    · rename_i star
      rw [if_pos star, star]
    · rename_i other
      rw [if_neg other, column.name]
  rw [map, table.optName, same]

/-- An expression stays as it is if its identifiers do. -/
theorem Expr.map_naming (expr : Expr) (fixed : Fixes write expr.texts) :
    expr.map (.naming write) = expr := by
  induction expr using Expr.induct with
  | column ref => rw [map, ref.map_naming fixed]
  | number | quotedString | bool | null | star | param | callBare => rw [map]
  | string value =>
    rw [map]
    rfl
  | binary operator left right parens ihLeft ihRight =>
    rw [texts, fixes_append, fixes_cons] at fixed
    rw [map, ihLeft fixed.1.2, ihRight fixed.2]
    rfl
  | unary operator operand parens ih =>
    rw [texts, fixes_cons] at fixed
    rw [map, ih fixed.2]
    rfl
  | call name args ih =>
    rw [texts, fixes_cons, itemTexts_eq] at fixed
    rw [map, mapItems_eq, fixed.2.items ih]
  | aggregate name argument distinct ih =>
    rw [texts, fixes_append] at fixed
    have same : distinct.map ((Rewriting.naming write).marker "DISTINCT") = distinct := Option.map_id'
    rw [map, ih fixed.2, same]
    rfl
  | list items ih =>
    rw [texts, itemTexts_eq] at fixed
    rw [map, mapItems_eq, fixed.items ih]

theorem FunctionCall.map_naming (function : FunctionCall) (fixed : Fixes write function.texts) :
    function.map (.naming write) = function := by
  have expr := function.toExpr.map_naming fixed
  rcases function with ⟨name, _ | args⟩
  · rfl
  · rw [toExpr, Expr.map] at expr
    rw [map, Option.map_some]
    exact congrArg (FunctionCall.mk name) (Expr.call.inj expr).2

theorem Rewriting.naming_keyword (text : Option String) :
    text.map (naming write).keyword = text :=
  Option.map_id'

theorem Rewriting.naming_marker (canonical : String) (marker : Option Marker) :
    marker.map ((naming write).marker canonical) = marker :=
  Option.map_id'

theorem TableRef.map_naming (ref : TableRef) (fixed : Fixes write ref.texts) :
    ref.map (.naming write) = ref := by
  simp only [texts, fixes_append] at fixed
  obtain ⟨⟨⟨⟨⟨db, table⟩, aliasName⟩, _⟩, condition⟩, shared⟩ := fixed
  have columns := shared.list fun column fixed => fixed.name
  rw [map, db.optName, aliasName.optName, Rewriting.naming_keyword, condition.part Expr.map_naming]
  simp only [Rewriting.naming, table.name, columns]

theorem Tables.map_naming (tables : Tables) (fixed : Fixes write tables.texts) :
    tables.map (.naming write) = tables := by
  have same := Fixes.items fixed fun ref _ => ref.map_naming
  cases tables with
  | many tables => exact congrArg many same
  | one table => exact congrArg one (List.head_eq_of_cons_eq same)

theorem TableOption.map_naming (option : TableOption) (fixed : Fixes write option.texts) :
    option.map (.naming write) = option := by
  rw [texts, fixes_append] at fixed
  have value : option.value.map (.naming write) = option.value := by
    cases shape : option.value with
    | text | number => rfl
    | expr value =>
      rw [shape] at fixed
      exact congrArg OptionValue.expr (value.map_naming fixed.2)
  rw [map, value]
  rfl

theorem SelectColumn.map_naming (column : SelectColumn) (fixed : Fixes write column.texts) :
    column.map (.naming write) = column := by
  rw [texts, fixes_append] at fixed
  rw [map, column.expr.map_naming fixed.1, fixed.2.optName]

theorem SelectColumns.map_naming (columns : SelectColumns) (fixed : Fixes write columns.texts) :
    columns.map (.naming write) = columns := by
  cases columns with
  | star => rfl
  | list columns => exact congrArg list (Fixes.items fixed fun column _ => column.map_naming)

theorem OrderItem.map_naming (item : OrderItem) (fixed : Fixes write item.texts) :
    item.map (.naming write) = item := by
  rw [texts, fixes_append] at fixed
  rw [map, item.expr.map_naming fixed.1, Rewriting.naming_keyword]

theorem Limit.map_naming (limit : Limit) (fixed : Fixes write limit.texts) :
    limit.map (.naming write) = limit := by
  rw [texts, fixes_append] at fixed
  rw [map, Rewriting.naming_keyword, fixed.2.items fun expr _ => expr.map_naming]

theorem Select.map_naming (select : Select) (fixed : Fixes write select.texts) :
    select.map (.naming write) = select := by
  simp only [texts, fixes_append] at fixed
  obtain ⟨⟨⟨⟨⟨⟨⟨⟨_, columns⟩, source⟩, condition⟩, groupBy⟩, having⟩, orderBy⟩, limit⟩, _⟩ := fixed
  rw [map, Rewriting.naming_marker, select.columns.map_naming columns, source.part Tables.map_naming,
    condition.part Expr.map_naming, groupBy.list Expr.map_naming, having.part Expr.map_naming,
    orderBy.list OrderItem.map_naming, limit.part Limit.map_naming, Rewriting.naming_keyword]

theorem Query.map_naming (query : Query) (fixed : Fixes write query.texts) :
    query.map (.naming write) = query := by
  rw [texts, fixes_append] at fixed
  rw [map, query.first.map_naming fixed.1, fixed.2.items fun select _ => select.map_naming]

theorem DataType.map_naming (dataType : DataType) : dataType.map (.naming write) = dataType := by
  have suffixes : dataType.suffixes.map (List.map (Rewriting.naming write).keyword) =
      dataType.suffixes := by
    rw [show (Rewriting.naming write).keyword = id from rfl, List.map_id_fun, Option.map_id_fun, id]
  rw [map, suffixes]
  rfl

theorem KeywordValue.map_naming (pair : Option KeywordValue) :
    pair.map (map (.naming write) (Rewriting.naming write).keyword) = pair :=
  Option.map_id'

theorem ExprSetting.map_naming (setting : ExprSetting) (fixed : Fixes write setting.texts) :
    setting.map (.naming write) = setting := by
  rw [texts, fixes_append] at fixed
  rw [map, setting.value.map_naming fixed.2]
  rfl

theorem ReferenceDefinition.map_naming (reference : ReferenceDefinition)
    (fixed : Fixes write reference.texts) : reference.map (.naming write) = reference := by
  rw [texts, fixes_append, fixes_append] at fixed
  obtain ⟨⟨table, columns⟩, _⟩ := fixed
  have actions : reference.actions.map
      (KeywordValue.map (.naming write) (Rewriting.naming write).keyword) = reference.actions :=
    List.map_id' _
  rw [map, reference.table.map_naming table, columns.items fun expr _ => expr.map_naming, actions]

theorem IndexDefinition.map_naming (index : IndexDefinition) (fixed : Fixes write index.texts) :
    index.map (.naming write) = index := by
  rw [texts, fixes_append, fixes_append, fixes_append, fixes_cons] at fixed
  obtain ⟨⟨⟨⟨_, name⟩, _⟩, columns⟩, options⟩ := fixed
  have same : (Rewriting.naming write).indexName index.name = index.name := name.indexName
  rw [map, same, KeywordValue.map_naming, columns.items fun expr _ => expr.map_naming,
    options.list ExprSetting.map_naming]
  rfl

theorem ConstraintDefinition.map_naming (constraint : ConstraintDefinition)
    (fixed : Fixes write constraint.texts) : constraint.map (.naming write) = constraint := by
  simp only [texts, fixes_append] at fixed
  obtain ⟨⟨⟨⟨⟨⟨⟨name, _⟩, _⟩, index⟩, _⟩, exprs⟩, reference⟩, options⟩ := fixed
  have same : (Rewriting.naming write).indexName constraint.index = constraint.index := index.indexName
  rw [map, name.optName, Rewriting.naming_keyword, same, KeywordValue.map_naming,
    exprs.items fun expr _ => expr.map_naming, reference.part ReferenceDefinition.map_naming,
    options.list ExprSetting.map_naming]
  rfl

theorem GeneratedColumn.map_naming (generated : GeneratedColumn)
    (fixed : Fixes write generated.texts) : generated.map (.naming write) = generated := by
  rw [texts, fixes_append, fixes_append] at fixed
  rw [map, Rewriting.naming_keyword, generated.expr.map_naming fixed.1.2, Rewriting.naming_keyword]

theorem KeywordExpr.map_naming (pair : KeywordExpr) (fixed : Fixes write pair.texts) :
    pair.map (.naming write) = pair := by
  rw [texts, fixes_cons] at fixed
  rw [map, pair.value.map_naming fixed.2]
  rfl

theorem ColumnDefinition.map_naming (column : ColumnDefinition) (fixed : Fixes write column.texts) :
    column.map (.naming write) = column := by
  simp only [texts, fixes_append] at fixed
  obtain ⟨⟨⟨⟨⟨⟨⟨⟨⟨⟨⟨⟨⟨⟨name, _⟩, _⟩, default⟩, _⟩, _⟩, _⟩, _⟩, check⟩, generated⟩, _⟩, _⟩, _⟩, comment⟩,
    reference⟩ := fixed
  have collate : column.collate.map (KeywordValue.map (.naming write) id) = column.collate :=
    Option.map_id'
  have characterSet : column.characterSet.map (KeywordSetting.map (.naming write)) =
      column.characterSet := Option.map_id'
  rw [map, column.column.map_naming name, column.dataType.map_naming, KeywordValue.map_naming,
    default.part KeywordExpr.map_naming, Rewriting.naming_keyword, Rewriting.naming_keyword,
    Rewriting.naming_keyword, collate, check.part ConstraintDefinition.map_naming,
    generated.part GeneratedColumn.map_naming, characterSet, KeywordValue.map_naming,
    KeywordValue.map_naming, comment.part ExprSetting.map_naming,
    reference.part ReferenceDefinition.map_naming]

theorem Definition.map_naming (definition : Definition) (fixed : Fixes write definition.texts) :
    definition.map (.naming write) = definition := by
  cases definition with
  | column value => exact congrArg column (value.map_naming fixed)
  | index value => exact congrArg index (value.map_naming fixed)
  | constraint value => exact congrArg constraint (value.map_naming fixed)
  | unsupported => rfl

theorem LikeClause.map_naming (like : LikeClause) (fixed : Fixes write like.texts) :
    like.map (.naming write) = like := by
  rw [texts, fixes_cons] at fixed
  rw [map, like.table.map_naming fixed.2]
  rfl

theorem TableStatement.map_naming (statement : TableStatement) (fixed : Fixes write statement.texts) :
    statement.map (.naming write) = statement := by
  simp only [texts, fixes_append] at fixed
  obtain ⟨⟨⟨⟨⟨⟨⟨⟨⟨_, _⟩, table⟩, _⟩, like⟩, definitions⟩, options⟩, _⟩, _⟩, query⟩ := fixed
  simp only [map, Rewriting.naming_marker, statement.table.map_naming table,
    like.part LikeClause.map_naming, definitions.list Definition.map_naming,
    options.list TableOption.map_naming, query.part Query.map_naming]
  rfl

theorem EventColumns.map_naming (columns : EventColumns) (fixed : Fixes write columns.texts) :
    columns.map (.naming write) = columns := by
  rw [texts, fixes_cons] at fixed
  rw [map, fixed.2.items fun ref _ => ref.map_naming]
  rfl

theorem TriggerEvent.map_naming (event : TriggerEvent) (fixed : Fixes write event.texts) :
    event.map (.naming write) = event := by
  rw [texts, fixes_cons] at fixed
  rw [map, fixed.2.part EventColumns.map_naming]
  rfl

theorem TriggerCondition.map_naming (clause : TriggerCondition) (fixed : Fixes write clause.texts) :
    clause.map (.naming write) = clause := by
  rw [texts, fixes_cons] at fixed
  rw [map, clause.condition.map_naming fixed.2]
  rfl

theorem TriggerAction.map_naming (action : TriggerAction) (fixed : Fixes write action.texts) :
    action.map (.naming write) = action := by
  rw [texts, fixes_cons] at fixed
  rw [map, action.function.map_naming fixed.2]
  rfl

theorem TriggerStatement.map_naming (statement : TriggerStatement)
    (fixed : Fixes write statement.texts) : statement.map (.naming write) = statement := by
  simp only [texts, fixes_append] at fixed
  obtain ⟨⟨⟨⟨⟨⟨⟨⟨⟨⟨_, _⟩, name⟩, _⟩, events⟩, table⟩, source⟩, _⟩, _⟩, condition⟩, action⟩ := fixed
  have clause : ∀ clause : Option KeywordArgs,
      clause.map (KeywordArgs.map (.naming write)) = clause := fun clause => by
    rcases clause with _ | ⟨_, _ | _⟩ <;> rfl
  simp only [map, Rewriting.naming_marker, Rewriting.naming_keyword, name.optName,
    events.items fun event _ => event.map_naming, statement.table.map_naming table,
    source.part TableRef.map_naming, clause, condition.part TriggerCondition.map_naming,
    statement.action.map_naming action]
  rfl

/-- A statement stays as it is if its identifiers do. -/
theorem Statement.map_naming (statement : Statement) (fixed : Fixes write statement.texts) :
    statement.map (.naming write) = statement := by
  cases statement with
  | table value => exact congrArg table (value.map_naming fixed)
  | trigger value => exact congrArg trigger (value.map_naming fixed)
  | unsupported => rfl

end SqlDdl
