import SqlDdl.Proofs.PlainTexts
import SqlDdl.Proofs.Rewriting
import SqlDdl.Statement.Render

/-! Rewritings that do not change the SQL of a statement, where a different configuration may make up for
what they change. -/

namespace SqlDdl

/-- A column as it is written after its table. -/
def writeColumn (config : Config) (name : String) : String :=
  if name = "*" then "*" else config.quote name

/-- Whether the kind of a constraint is that of a check. -/
def isCheckKind (kind : String) : Bool :=
  (trim kind).toList.map Char.toLower == "check".toList

/-- Whether every text that a rewriting puts in is written by one configuration as the text that it
replaces is written by another one. -/
structure Rewriting.Preserves (rewriting : Rewriting) (config other : Config) : Prop where
  column : ∀ name, writeColumn other (rewriting.column name) = writeColumn config name
  optName : ∀ name,
    (nonempty? (rewriting.optName name)).map other.quote = (nonempty? name).map config.quote
  indexName : ∀ name, (rewriting.indexName name).map other.quote = name.map config.quote
  name : ∀ name, other.quote (rewriting.name name) = config.quote name
  string : ∀ value, rewriting.string value = value
  keyword : ∀ text, keyword? (rewriting.keyword text) = keyword? text
  check : ∀ kind, isCheckKind (rewriting.keyword kind) = isCheckKind kind
  /-- A set flag stands for a keyword in its normal form. -/
  marker : ∀ canonical, keyword? canonical = some canonical → ∀ marker,
    (rewriting.marker canonical marker).keyword? canonical = marker.keyword? canonical
  operator : ∀ text, upper (rewriting.operator text) = upper text
  sign : ∀ operator, Expr.unarySign (rewriting.operator operator) = Expr.unarySign operator
  aggregate : ∀ name, upper (rewriting.aggregate name) = upper name
  typeName : ∀ name, upper (trim (rewriting.typeName name)) = upper (trim name)

variable {rewriting : Rewriting} {config other : Config}

section Tokens

theorem Rewriting.Preserves.bind_keyword? (same : rewriting.Preserves config other)
    (text : Option String) : (text.map rewriting.keyword).bind keyword? = text.bind keyword? := by
  cases text with
  | none => rfl
  | some text => exact same.keyword text

theorem Rewriting.Preserves.word (same : rewriting.Preserves config other) (text : String) :
    Tokens.word (rewriting.keyword text) = .word text := by
  rw [Tokens.word, Tokens.pushKeyword, same.keyword]
  rfl

theorem Rewriting.Preserves.optWord (same : rewriting.Preserves config other) (text : Option String) :
    Tokens.optWord (text.map rewriting.keyword) = .optWord text := by
  rw [Tokens.optWord, same.bind_keyword?]
  rfl

theorem Rewriting.Preserves.bind_marker (same : rewriting.Preserves config other) (canonical : String)
    (normal : keyword? canonical = some canonical) (marker : Option Marker) :
    (marker.map (rewriting.marker canonical)).bind (Marker.keyword? canonical) =
      marker.bind (Marker.keyword? canonical) := by
  cases marker with
  | none => rfl
  | some marker => exact same.marker canonical normal marker

theorem Rewriting.Preserves.markerTokens (same : rewriting.Preserves config other) (canonical : String)
    (normal : keyword? canonical = some canonical) (marker : Option Marker) :
    Tokens.marker canonical (marker.map (rewriting.marker canonical)) = .marker canonical marker := by
  rw [Tokens.marker, same.bind_marker canonical normal]
  rfl

/-- An optional part has the same tokens if the part has when it is there. -/
theorem Tokens.part_map {α β : Type} {change : α → β} {tokens : α → Tokens} {changed : β → Tokens}
    (same : ∀ value, changed (change value) = tokens value) (part : Option α) :
    Tokens.part (part.map change) changed = .part part tokens := by
  cases part with
  | none => rfl
  | some value => exact same value

end Tokens

theorem ColumnRef.render_eq (config : Config) (ref : ColumnRef) :
    ref.render config =
      match (nonempty? ref.table).map config.quote with
      | some table => table ++ "." ++ writeColumn config ref.column
      | none => writeColumn config ref.column := by
  rw [render, writeColumn]
  cases nonempty? ref.table <;> rfl

section Expr

variable (same : rewriting.Preserves config other)
include same

theorem ColumnRef.render_map (ref : ColumnRef) : (ref.map rewriting).render other = ref.render config := by
  rw [render_eq, render_eq, map, same.optName, same.column]

theorem ColumnRef.renderList_map (refs : List ColumnRef) :
    renderList other (refs.map (map rewriting)) = renderList config refs := by
  simp only [renderList, List.map_map, Function.comp_def, render_map same]

/-- A rewriting that preserves what is written does not change the SQL of an expression. -/
theorem Expr.render_map (expr : Expr) : (expr.map rewriting).render other = expr.render config := by
  induction expr using Expr.induct with
  | column ref => rw [map, render, render, ref.render_map same]
  | number | quotedString | bool | null | star | param | callBare => simp only [map, render]
  | string value => rw [map, render, render, same.string]
  | binary operator left right parens ihLeft ihRight ihItems =>
    have operand : (right.map rewriting).renderOperand other (rewriting.operator operator) =
        right.renderOperand config operator := by
      rw [renderOperand, renderOperand, bounds?_map, same.operator]
      cases pair : right.bounds? with
      | none => cases isBetween (upper operator) <;> exact ihRight
      | some bounds =>
        obtain ⟨low, high⟩ := bounds
        have bound := ihItems [low, high] (eq_of_bounds? pair)
        cases isBetween (upper operator) with
        | false => exact ihRight
        | true => simp only [Option.map_some, bound low (by simp), bound high (by simp)]
    rw [map, render_binary, render_binary, ihLeft, same.operator, operand]
  | unary operator operand parens ih =>
    rw [map, render, render, applyUnary_eq, applyUnary_eq, ih, same.sign]
  | call name args ih =>
    have items : args.map (render other ∘ map rewriting) = args.map (render config) :=
      List.map_congr_left ih
    rw [map, mapItems_eq, render, render, renderItems_eq_map, renderItems_eq_map, List.map_map, items]
  | aggregate name argument distinct ih =>
    rw [map, render, render, ih, same.aggregate, same.bind_marker "DISTINCT" rfl]
  | list items ih =>
    have each : items.map (render other ∘ map rewriting) = items.map (render config) :=
      List.map_congr_left ih
    rw [map, mapItems_eq, render, render, renderItems_eq_map, renderItems_eq_map, List.map_map, each]

theorem Expr.renderList_map (items : List Expr) :
    renderList other (items.map (map rewriting)) = renderList config items := by
  simp only [renderList, renderItems_eq_map, List.map_map, Function.comp_def, render_map same]

theorem FunctionCall.render_map (function : FunctionCall) :
    (function.map rewriting).render other = function.render config := by
  have expr := function.toExpr.render_map same
  rcases function with ⟨name, _ | args⟩
  · exact expr
  · rwa [toExpr, Expr.map] at expr

end Expr

section Tables

theorem qualified_eq (config : Config) (qualifier : Option String) (name : String) :
    qualified config qualifier name =
      match (nonempty? qualifier).map config.quote with
      | some qualifier => qualifier ++ "." ++ config.quote name
      | none => config.quote name := by
  rw [qualified]
  cases nonempty? qualifier <;> rfl

theorem withAlias_eq (config : Config) (text : String) (aliasName : Option String) :
    withAlias config text aliasName =
      match (nonempty? aliasName).map config.quote with
      | some aliasName => text ++ " AS " ++ aliasName
      | none => text := by
  rw [withAlias]
  cases nonempty? aliasName <;> rfl

variable (same : rewriting.Preserves config other)
include same

theorem TableRef.render_map (ref : TableRef) : (ref.map rewriting).render other = ref.render config := by
  rw [render, render, withAlias_eq, withAlias_eq, qualified_eq, qualified_eq, map, same.optName,
    same.optName, same.name]

theorem TableRef.joinTokens_map (ref : TableRef) :
    (ref.map rewriting).joinTokens other = ref.joinTokens config := by
  rcases ref with ⟨_, _, _, _, _ | condition, shared⟩
  · cases shared with
    | none => rfl
    | some columns =>
      simp only [joinTokens, map, Option.map_none, Option.map_some, List.map_map, Function.comp_def,
        same.name]
  · simp only [joinTokens, map, Option.map_some, condition.render_map same]

theorem TableRef.renderNext_map (ref : TableRef) :
    (ref.map rewriting).renderNext other = ref.renderNext config := by
  rw [renderNext, renderNext, ref.render_map same, ref.joinTokens_map same, map]
  cases ref.join with
  | none => rfl
  | some keyword => simp only [Option.map_some, same.word]

omit same in
theorem Tables.toList_map (tables : Tables) :
    (tables.map rewriting).toList = tables.toList.map (TableRef.map rewriting) := by
  cases tables <;> rfl

theorem Tables.render_map (tables : Tables) :
    (tables.map rewriting).render other = tables.render config := by
  rw [render, render, tables.toList_map]
  cases tables.toList with
  | nil => rfl
  | cons first later =>
    simp only [List.map_cons, first.render_map same, List.map_map, Function.comp_def,
      TableRef.renderNext_map same]

theorem OptionValue.render_map (value : OptionValue) :
    (value.map rewriting).render other = value.render config := by
  cases value with
  | text | number => rfl
  | expr value => exact value.render_map same

theorem TableOption.render_map (option : TableOption) :
    (option.map rewriting).render other = option.render config := by
  rw [render, render, map, same.word, option.value.render_map same]

end Tables

section Select

variable (same : rewriting.Preserves config other)
include same

theorem SelectColumn.render_map (column : SelectColumn) :
    (column.map rewriting).render other = column.render config := by
  rw [render, render, withAlias_eq, withAlias_eq, map, same.optName, column.expr.render_map same]

theorem SelectColumns.render_map (columns : SelectColumns) :
    (columns.map rewriting).render other = columns.render config := by
  cases columns with
  | star => rfl
  | list columns =>
    simp only [render, map, List.map_map, Function.comp_def, SelectColumn.render_map same]

theorem OrderItem.render_map (item : OrderItem) :
    (item.map rewriting).render other = item.render config := by
  rw [render, render, map, item.expr.render_map same, same.optWord]

theorem Limit.render?_map (limit : Limit) :
    (limit.map rewriting).render? other = limit.render? config := by
  have values : (limit.values.map (Expr.map rewriting)).map (Expr.render other) =
      limit.values.map (Expr.render config) := by
    simp only [List.map_map, Function.comp_def, Expr.render_map same]
  rw [render?, render?, map, values, same.bind_keyword?]

omit same in
theorem Select.filter_map {α : Type} {change : α → α} (items : Option (List α)) :
    (items.map (List.map change)).filter (!·.isEmpty) =
      (items.filter (!·.isEmpty)).map (List.map change) := by
  rcases items with _ | _ | _ <;> rfl

theorem Select.tokens_map (select : Select) :
    (select.map rewriting).tokens other = select.tokens config := by
  have source : Tokens.part (select.source.map (Tables.map rewriting))
      (fun tables => clause "FROM" (tables.render other)) =
      .part select.source fun tables => clause "FROM" (tables.render config) :=
    Tokens.part_map (fun tables => by rw [tables.render_map same]) _
  have expr : ∀ keyword (part : Option Expr), Tokens.part (part.map (Expr.map rewriting))
      (fun expr => clause keyword (expr.render other)) =
      .part part fun expr => clause keyword (expr.render config) := fun _ =>
    Tokens.part_map fun expr => by rw [expr.render_map same]
  have groupBy : ∀ part : Option (List Expr), Tokens.part (part.map (List.map (Expr.map rewriting)))
      (fun items => clause "GROUP BY" (Expr.renderList other items)) =
      .part part fun items => clause "GROUP BY" (Expr.renderList config items) :=
    Tokens.part_map fun items => by rw [Expr.renderList_map same]
  have orderBy : ∀ part : Option (List OrderItem),
      Tokens.part (part.map (List.map (OrderItem.map rewriting)))
      (fun items => clause "ORDER BY" (commaList (items.map (OrderItem.render other)))) =
      .part part fun items => clause "ORDER BY" (commaList (items.map (OrderItem.render config))) :=
    Tokens.part_map fun items => by
      simp only [List.map_map, Function.comp_def, OrderItem.render_map same]
  have limit : (select.limit.map (Limit.map rewriting)).bind (Limit.render? other) =
      select.limit.bind (Limit.render? config) := by
    cases select.limit with
    | none => rfl
    | some limit => exact limit.render?_map same
  simp only [tokens, map, same.markerTokens "DISTINCT" rfl, select.columns.render_map same, filter_map,
    source, expr, groupBy, orderBy, limit]

theorem Select.render_map (select : Select) :
    (select.map rewriting).render other = select.render config := by
  rw [render, render, select.tokens_map same]

theorem Select.operation_map (select : Select) :
    (select.map rewriting).operation = select.operation := by
  rw [operation, operation, map, same.bind_keyword?]

theorem Query.laterTokens_map (last : Select) (later : List Select) :
    laterTokens other (last.map rewriting) (later.map (Select.map rewriting)) =
      laterTokens config last later := by
  induction later generalizing last with
  | nil => rfl
  | cons next later ih =>
    rw [List.map_cons, laterTokens, laterTokens, last.operation_map same, next.render_map same, ih]

theorem Query.render_map (query : Query) :
    (query.map rewriting).render other = query.render config := by
  rw [render, render, map, query.first.render_map same, laterTokens_map same]

end Select

end SqlDdl
