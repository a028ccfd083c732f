import SqlDdl.Proofs.Outcomes
import SqlDdl.Proofs.RewrittenSql

/-! A rewriting that preserves what is written does not change the SQL of a statement, nor the error if it
has none. -/

namespace SqlDdl

variable {rewriting : Rewriting} {config other : Config}

section Definition

variable (same : rewriting.Preserves config other)
include same

theorem DataType.render_map (dataType : DataType) :
    (dataType.map rewriting).render = dataType.render := by
  have suffixes : ((dataType.suffixes.map (List.map rewriting.keyword)).getD []).map Tokens.word =
      (dataType.suffixes.getD []).map Tokens.word := by
    cases dataType.suffixes with
    | none => rfl
    | some suffixes =>
      simp only [Option.map_some, Option.getD_some, List.map_map, Function.comp_def, same.word]
  simp only [render, map, same.typeName, suffixes]

theorem KeywordValue.words_map (pair : KeywordValue) :
    (pair.map rewriting rewriting.keyword).words = pair.words := by
  rw [words, words, map, same.word, same.word]

theorem KeywordValue.optJoin_map (pair : Option KeywordValue) :
    (pair.map (map rewriting rewriting.keyword)).map (fun pair => pair.words.join) =
      pair.map fun pair => pair.words.join := by
  simp only [Option.map_map, Function.comp_def, words_map same]

theorem ExprSetting.tokens_map (setting : ExprSetting) :
    (setting.map rewriting).tokens other = setting.tokens config := by
  rw [tokens, tokens, map, same.word, setting.value.render_map same]

theorem Expr.renderGroup_map (items : List Expr) :
    renderGroup other (items.map (map rewriting)) = renderGroup config items := by
  rw [renderGroup, renderGroup, renderList_map same]

theorem renderIndexOptions_map (options : Option (List ExprSetting)) :
    renderIndexOptions other (options.map (List.map (ExprSetting.map rewriting))) =
      renderIndexOptions config options := by
  cases options with
  | none => rfl
  | some options =>
    simp only [renderIndexOptions, Option.map_some, Option.getD_some, List.map_map, Function.comp_def,
      ExprSetting.tokens_map same]

theorem ReferenceDefinition.render_map (reference : ReferenceDefinition) :
    (reference.map rewriting).render other = reference.render config := by
  have actions : (reference.actions.map (KeywordValue.map rewriting rewriting.keyword)).map
      KeywordValue.words = reference.actions.map KeywordValue.words := by
    simp only [List.map_map, Function.comp_def, KeywordValue.words_map same]
  simp only [render, map, reference.table.render_map same, List.isEmpty_map,
    Expr.renderGroup_map same, actions]

theorem ReferenceDefinition.part_map (reference : Option ReferenceDefinition) :
    Tokens.part (reference.map (map rewriting)) (fun reference => .text (reference.render other)) =
      .part reference fun reference => .text (reference.render config) :=
  Tokens.part_map (fun reference => by rw [reference.render_map same]) _

theorem IndexDefinition.tokens_map (index : IndexDefinition) :
    (index.map rewriting).tokens other = index.tokens config := by
  simp only [tokens, map, same.word, same.indexName, KeywordValue.optJoin_map same,
    Expr.renderGroup_map same, renderIndexOptions_map same]

theorem ConstraintDefinition.nameTokens_map (constraint : ConstraintDefinition) :
    (constraint.map rewriting).nameTokens other = constraint.nameTokens config := by
  simp only [nameTokens, map, same.optName]
  cases constraint.keyword with
  | none => rfl
  | some keyword => simp only [Option.map_some, same.keyword]

theorem ConstraintDefinition.tokens_map (constraint : ConstraintDefinition) :
    (constraint.map rewriting).tokens other = constraint.tokens config := by
  have isCheck : (constraint.map rewriting).isCheck = constraint.isCheck :=
    same.check constraint.kind
  rw [tokens, tokens, isCheck, constraint.nameTokens_map same]
  simp only [map, same.word, same.indexName, KeywordValue.optJoin_map same, Expr.renderGroup_map same,
    ReferenceDefinition.part_map same, renderIndexOptions_map same]

theorem GeneratedColumn.tokens_map (generated : GeneratedColumn) :
    (generated.map rewriting).tokens other = generated.tokens config := by
  simp only [tokens, keywords, map, same.bind_keyword?, generated.expr.render_map same, same.optWord]

theorem ColumnDefinition.fieldTokens_map (column : ColumnDefinition) :
    (column.map rewriting).fieldTokens other = column.fieldTokens config := by
  have nullable : (column.nullable.map (KeywordValue.map rewriting rewriting.keyword)).map (·.value) =
      (column.nullable.map (·.value)).map rewriting.keyword := by
    cases column.nullable <;> rfl
  have default : Tokens.part (column.default.map (KeywordExpr.map rewriting))
      (fun pair => .word pair.keyword ++ .text (pair.value.render other)) =
      .part column.default fun pair => .word pair.keyword ++ .text (pair.value.render config) :=
    Tokens.part_map (fun pair => by rw [KeywordExpr.map, same.word, pair.value.render_map same]) _
  have collate : Tokens.part (column.collate.map (KeywordValue.map rewriting id))
      (fun pair => .word pair.keyword ++ .text pair.value) =
      .part column.collate fun pair => .word pair.keyword ++ .text pair.value :=
    Tokens.part_map (fun pair => by rw [KeywordValue.map, same.word, id]) _
  have check := Tokens.part_map (ConstraintDefinition.tokens_map same) column.check
  have generated := Tokens.part_map (GeneratedColumn.tokens_map same) column.generated
  have characterSet : Tokens.part (column.characterSet.map (KeywordSetting.map rewriting))
      (fun set => .word set.keyword ++ .opt set.symbol ++ .text set.value) =
      .part column.characterSet fun set => .word set.keyword ++ .opt set.symbol ++ .text set.value :=
    Tokens.part_map (fun set => by rw [KeywordSetting.map, same.word]) _
  have pair := fun part => Tokens.part_map (KeywordValue.words_map same) part
  have comment := Tokens.part_map (ExprSetting.tokens_map same) column.comment
  simp only [fieldTokens, map, column.column.render_map same, column.dataType.render_map same, nullable,
    same.optWord, default, collate, check, generated, characterSet, pair, comment,
    ReferenceDefinition.part_map same]

theorem Definition.tokens_map (definition : Definition) :
    (definition.map rewriting).tokens other = definition.tokens config := by
  cases definition with
  | column value =>
    rw [map, tokens, tokens, ColumnDefinition.tokens, ColumnDefinition.tokens,
      value.fieldTokens_map same]
    rfl
  | index value => rw [map, tokens, tokens, value.tokens_map same]
  | constraint value => rw [map, tokens, tokens, value.tokens_map same]
  | unsupported => rfl

end Definition

section Statement

variable (same : rewriting.Preserves config other)
include same

theorem TableStatement.renderBody_map (definitions : List Definition) :
    renderBody other (definitions.map (Definition.map rewriting)) = renderBody config definitions := by
  have each : ∀ definition : Definition,
      (do return (← (definition.map rewriting).tokens other).join : Except Error String) =
        (do return (← definition.tokens config).join) := fun definition => by
    rw [definition.tokens_map same]
  simp only [renderBody, List.mapM_map, Function.comp_def, each]

theorem TableStatement.tokens_map (statement : TableStatement) :
    (statement.map rewriting).tokens other = statement.tokens config := by
  have head : (statement.map rewriting).headTokens other = statement.headTokens config := by
    simp only [headTokens, map, same.word, same.markerTokens "TEMPORARY" rfl,
      same.markerTokens "IF NOT EXISTS" rfl, statement.table.render_map same]
  have body : (statement.map rewriting).bodyTokens other = statement.bodyTokens config := by
    rw [bodyTokens, bodyTokens, map]
    cases statement.definitions with
    | none => rfl
    | some definitions => simp only [Option.map_some, renderBody_map same]
  have options : ((statement.options.map (List.map (TableOption.map rewriting))).getD []).map
      (TableOption.render other) = (statement.options.getD []).map (TableOption.render config) := by
    cases statement.options with
    | none => rfl
    | some options =>
      simp only [Option.map_some, Option.getD_some, List.map_map, Function.comp_def,
        TableOption.render_map same]
  have query : Tokens.part (statement.query.map (Query.map rewriting))
      (fun query => .text (query.render other)) =
      .part statement.query fun query => .text (query.render config) :=
    Tokens.part_map (fun query => by rw [query.render_map same]) _
  have tail : (statement.map rewriting).tailTokens other = statement.tailTokens config := by
    simp only [tailTokens, map, options, same.markerTokens "IGNORE" rfl, same.markerTokens "AS" rfl,
      query]
  rw [tokens, tokens, head, body, tail, map]
  cases statement.like with
  | none => rfl
  | some like =>
    simp only [Option.map_some, LikeClause.map, same.word, like.table.render_map same]

theorem TriggerEvent.render_map (event : TriggerEvent) :
    (event.map rewriting).render other = event.render config := by
  have columns : Tokens.part (event.columns.map (EventColumns.map rewriting))
      (fun columns => .word columns.keyword ++ .text (ColumnRef.renderList other columns.columns)) =
      .part event.columns fun columns =>
        .word columns.keyword ++ .text (ColumnRef.renderList config columns.columns) :=
    Tokens.part_map (fun columns => by
      rw [EventColumns.map, same.word, ColumnRef.renderList_map same]) _
  simp only [render, map, same.word, columns]

theorem KeywordArgs.words_map (clause : KeywordArgs) : (clause.map rewriting).words = clause.words := by
  rw [words, words, map, same.word, same.optWord]

omit same in
theorem Expr.isParenthesized_map (expr : Expr) :
    (expr.map rewriting).isParenthesized = expr.isParenthesized := by
  cases expr with
  | call name args => cases args <;> rfl
  | _ => rfl

theorem TriggerCondition.tokens_map (clause : TriggerCondition) :
    (clause.map rewriting).tokens other = clause.tokens config := by
  simp only [tokens, map, same.word, clause.condition.isParenthesized_map,
    clause.condition.render_map same]

theorem TriggerAction.tokens_map (action : TriggerAction) :
    (action.map rewriting).tokens other = action.tokens config := by
  rw [tokens, tokens, map, same.word, action.function.render_map same]

theorem TriggerStatement.tokens_map (statement : TriggerStatement) :
    (statement.map rewriting).tokens other = statement.tokens config := by
  have events : (statement.map rewriting).renderEvents other = statement.renderEvents config := by
    simp only [renderEvents, map, List.map_map, Function.comp_def, TriggerEvent.render_map same]
  have source : Tokens.part (statement.source.map (TableRef.map rewriting))
      (fun table => .text "FROM" ++ .text (table.render other)) =
      .part statement.source fun table => .text "FROM" ++ .text (table.render config) :=
    Tokens.part_map (fun table => by rw [table.render_map same]) _
  have clause := fun part => Tokens.part_map (KeywordArgs.words_map same) part
  have condition := Tokens.part_map (TriggerCondition.tokens_map same) statement.condition
  rw [tokens, tokens, events]
  simp only [map, same.word, same.markerTokens "CONSTRAINT" rfl, same.optName, same.optWord,
    statement.table.render_map same, source, clause, condition, statement.action.tokens_map same]

/-- A rewriting that preserves what is written does not change the result of a statement. -/
theorem Statement.render_map (statement : Statement) :
    (statement.map rewriting).render other = statement.render config := by
  cases statement with
  | table value => rw [map, render, render, TableStatement.render, TableStatement.render,
      value.tokens_map same]
  | trigger value =>
    rw [map, render, render, TriggerStatement.render, TriggerStatement.render, value.tokens_map same,
      TriggerStatement.map, List.isEmpty_map]
  | unsupported => rfl

end Statement

end SqlDdl
