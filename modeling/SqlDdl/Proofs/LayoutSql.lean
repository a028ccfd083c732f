import SqlDdl.Proofs.Layout
import SqlDdl.Select.Render

/-! The SQL of expressions, tables and queries has every property of a layout. -/

namespace SqlDdl.Layout

variable {config : Config} {admits : RoleText → Prop} {holds : Bool → String → Prop} {commas : Bool}
  (laws : Layout config admits holds)
include laws

section Expr

theorem commaList {α : Type} {text : α → String} {items : List α}
    (each : ∀ item ∈ items, holds true (text item)) :
    OrEmpty (holds true) (commaList (items.map text)) :=
  .intercalate laws.comma (List.forall_mem_map.mpr each)

theorem parenthesizedIf {text : String} (wanted : Bool) (inner : holds commas text) :
    holds commas (parenthesizedIf wanted text) := by
  cases wanted with
  | true => exact laws.parenthesized (Or.inr (laws.ofCommas inner))
  | false => exact inner

theorem columnRef (ref : ColumnRef) (admitted : ∀ entry ∈ ref.texts, admits entry) :
    holds commas (ref.render config) := by
  rw [ColumnRef.texts, List.forall_mem_append] at admitted
  obtain ⟨inTable, inColumn⟩ := admitted
  have column : holds commas (if ref.column = "*" then "*" else config.quote ref.column) := by
    split
    · exact laws.fixed (by decide)
    · rename_i other
      rw [if_neg other] at inColumn
      exact laws.name (inColumn _ (List.mem_singleton_self _))
  simp only [ColumnRef.render]
  cases named : nonempty? ref.table with
  | none => exact column
  | some table => exact laws.joint (by decide) (laws.name (forall_mem_roleText?.mp inTable table named)) column

/-- An expression has the property if its texts are admitted. -/
theorem expr (expr : Expr) (admitted : ∀ entry ∈ expr.texts, admits entry) :
    holds commas (expr.render config) := by
  induction expr using Expr.induct generalizing commas with
  | column ref =>
    rw [Expr.render]
    rw [Expr.texts] at admitted
    exact laws.columnRef ref admitted
  | number value =>
    rw [Expr.render]
    exact laws.number value
  | string value =>
    rw [Expr.render]
    exact laws.string (admitted _ (by simp [Expr.texts]))
  | quotedString value =>
    rw [Expr.render]
    exact laws.quotedString (admitted _ (by simp [Expr.texts]))
  | bool value =>
    rw [Expr.render]
    split <;> exact laws.fixed (by decide)
  | null =>
    rw [Expr.render]
    exact laws.fixed (by decide)
  | star =>
    rw [Expr.render]
    exact laws.fixed (by decide)
  | param name =>
    rw [Expr.render]
    exact laws.param (admitted _ (by simp [Expr.texts]))
  | binary operator left right parens ihLeft ihRight ihItems =>
    rw [Expr.texts, List.forall_mem_append, List.forall_mem_cons] at admitted
    obtain ⟨⟨word, inLeft⟩, inRight⟩ := admitted
    have operand : holds commas (right.renderOperand config operator) := by
      rw [Expr.renderOperand]
      split
      -- The bounds of a range are written without the parentheses of the list that they are.
      · rename_i low high _ pair
        cases Expr.eq_of_bounds? pair
        rw [Expr.texts, Expr.itemTexts_eq, List.forall_mem_flatMap] at inRight
        have bound : ∀ item ∈ [low, high], holds commas (item.render config) := fun item member =>
          ihItems _ rfl item member (inRight item member)
        exact laws.joint (by decide) (bound low (by simp)) (bound high (by simp))
      · exact ihRight inRight
    rw [Expr.render_binary]
    exact laws.parenthesizedIf parens (laws.binary word (ihLeft inLeft) operand)
  | unary operator operand parens ih =>
    rw [Expr.texts, List.forall_mem_cons] at admitted
    rw [Expr.render, Expr.applyUnary_eq]
    exact laws.parenthesizedIf parens (laws.unary admitted.1 (ih admitted.2))
  | callBare name =>
    rw [Expr.render]
    exact laws.function (admitted _ (by simp [Expr.texts])) (laws.parenthesized (Or.inl rfl))
  | call name args ih =>
    rw [Expr.texts, List.forall_mem_cons, Expr.itemTexts_eq, List.forall_mem_flatMap] at admitted
    rw [Expr.render, Expr.renderItems_eq_map]
    refine laws.function admitted.1 (laws.parenthesized (laws.commaList ?_))
    exact fun arg inside => ih arg inside (admitted.2 arg inside)
  | aggregate name argument distinct ih =>
    rw [Expr.texts, List.forall_mem_append, List.forall_mem_cons] at admitted
    obtain ⟨⟨word, marker⟩, inArgument⟩ := admitted
    rw [Expr.render]
    refine laws.aggregate word (laws.parenthesized (Or.inr ?_))
    split
    · rename_i keyword found
      exact laws.joint (by decide) (laws.optMarker (by decide) marker found) (ih inArgument)
    · exact ih inArgument
  | list items ih =>
    rw [Expr.texts, Expr.itemTexts_eq, List.forall_mem_flatMap] at admitted
    rw [Expr.render, Expr.renderItems_eq_map]
    refine laws.parenthesized (laws.commaList ?_)
    exact fun item inside => ih item inside (admitted item inside)

theorem exprList (items : List Expr) (admitted : ∀ item ∈ items, ∀ entry ∈ item.texts, admits entry) :
    OrEmpty (holds true) (Expr.renderList config items) := by
  rw [Expr.renderList, Expr.renderItems_eq_map]
  exact laws.commaList fun item inside => laws.expr item (admitted item inside)

end Expr

section Tables

theorem withAlias {text : String} {aliasName : Option String} (inner : holds commas text)
    (admitted : ∀ entry ∈ roleText? .identifier (nonempty? aliasName), admits entry) :
    holds commas (withAlias config text aliasName) := by
  rw [SqlDdl.withAlias]
  split
  · rename_i name named
    exact laws.joint (by decide) inner (laws.name (forall_mem_roleText?.mp admitted name named))
  · exact inner

theorem tableRef (ref : TableRef) (admitted : ∀ entry ∈ ref.texts, admits entry) :
    holds commas (ref.render config) := by
  simp only [TableRef.texts, List.forall_mem_append, List.forall_mem_singleton] at admitted
  obtain ⟨⟨⟨⟨⟨db, table⟩, aliasName⟩, _⟩, _⟩, _⟩ := admitted
  refine laws.withAlias ?_ aliasName
  rw [qualified]
  split
  · rename_i qualifier named
    exact laws.joint (by decide) (laws.name (forall_mem_roleText?.mp db qualifier named)) (laws.name table)
  · exact laws.name table

theorem joinTokens (ref : TableRef) (admitted : ∀ entry ∈ ref.texts, admits entry) :
    AllFit holds commas (ref.joinTokens config) := by
  simp only [TableRef.texts, List.forall_mem_append] at admitted
  obtain ⟨⟨_, condition⟩, shared⟩ := admitted
  rw [forall_mem_partTexts] at condition
  rw [forall_mem_listTexts] at shared
  rw [TableRef.joinTokens]
  split
  · rename_i expr found
    exact (laws.fixedText (by decide)).append (laws.text (Or.inr (laws.expr expr (condition expr found))))
  · rename_i columns _ found
    rw [found] at shared
    refine (laws.fixedText (by decide)).append (laws.text (Or.inr (laws.parenthesized (laws.commaList ?_))))
    exact fun column inside => laws.name (shared column inside _ (List.mem_singleton_self _))
  · exact .empty

/-- A text and a further table. Tables that are not joined have a comma between them. -/
theorem nextTable (ref : TableRef) (admitted : ∀ entry ∈ ref.texts, admits entry) {before : String}
    (inner : holds true before) : holds true (before ++ ref.renderNext config) := by
  have table : holds true (ref.render config) := laws.tableRef ref admitted
  rw [TableRef.renderNext]
  split
  · rename_i keyword joined
    have word : admits (.keyword, keyword) := by
      simp only [TableRef.texts, List.forall_mem_append] at admitted
      exact forall_mem_roleText?.mp admitted.1.1.2 keyword joined
    have tokens : AllFit holds true
        (.word keyword ++ .text (ref.render config) ++ ref.joinTokens config) :=
      .append (.append (laws.word word) (laws.text (Or.inr table))) (laws.joinTokens ref admitted)
    have joined := laws.join_of_mem tokens
      (List.mem_append_left _ (List.mem_append_right _ (List.mem_singleton_self _))) table
    rw [← String.append_assoc]
    exact laws.joint (by decide) inner joined
  · rw [← String.append_assoc]
    exact laws.comma inner table

theorem laterTables (later : List TableRef) (admitted : ∀ ref ∈ later, ∀ entry ∈ ref.texts, admits entry)
    {before : String} (inner : holds true before) :
    holds true (before ++ String.join (later.map (TableRef.renderNext config))) := by
  induction later generalizing before with
  | nil =>
    rw [List.map_nil, String.join_nil, String.append_empty]
    exact inner
  | cons ref later ih =>
    obtain ⟨first, rest⟩ := List.forall_mem_cons.mp admitted
    rw [List.map_cons, String.join_cons, ← String.append_assoc]
    exact ih rest (laws.nextTable ref first inner)

/-- Tables have the property. A single table has no comma outside of parentheses. -/
theorem tables (tables : Tables) (admitted : ∀ entry ∈ tables.texts, admits entry)
    (single : commas = true ∨ tables.toList.length ≤ 1) : OrEmpty (holds commas) (tables.render config) := by
  rw [Tables.texts, List.forall_mem_flatMap] at admitted
  rw [Tables.render]
  split
  · exact Or.inl rfl
  · rename_i first later shape
    rw [shape] at admitted single
    obtain ⟨inFirst, inLater⟩ := List.forall_mem_cons.mp admitted
    rcases single with rfl | alone
    · exact Or.inr (laws.laterTables later inLater (laws.tableRef first inFirst))
    · have none : later = [] := List.length_eq_zero_iff.mp (by simpa using alone)
      rw [none, List.map_nil, String.join_nil, String.append_empty]
      exact Or.inr (laws.tableRef first inFirst)

theorem tableOption (option : TableOption) (admitted : ∀ entry ∈ option.texts, admits entry) :
    OrEmpty (holds commas) (option.render config) := by
  rw [TableOption.texts, List.forall_mem_append, List.forall_mem_cons] at admitted
  obtain ⟨⟨word, symbol⟩, inValue⟩ := admitted
  have value : OrEmpty (holds commas) (option.value.render config) := by
    cases shape : option.value with
    | text value =>
      rw [shape] at inValue
      exact laws.verbatim (inValue _ (List.mem_singleton_self _))
    | number value => exact Or.inr (laws.number value)
    | expr value =>
      rw [shape] at inValue
      exact Or.inr (laws.expr value inValue)
  exact laws.join (((laws.word word).append (laws.optVerbatim symbol)).append (laws.text value))

end Tables

section Select

theorem selectColumns (columns : SelectColumns) (admitted : ∀ entry ∈ columns.texts, admits entry) :
    OrEmpty (holds true) (columns.render config) := by
  cases columns with
  | star text => exact laws.verbatim (admitted _ (List.mem_singleton_self _))
  | list columns =>
    rw [SelectColumns.texts, List.forall_mem_flatMap] at admitted
    refine laws.commaList fun column inside => ?_
    obtain ⟨inExpr, aliasName⟩ := List.forall_mem_append.mp (admitted column inside)
    exact laws.withAlias (laws.expr column.expr inExpr) aliasName

theorem orderItem (item : OrderItem) (admitted : ∀ entry ∈ item.texts, admits entry) :
    holds true (item.render config) := by
  rw [OrderItem.texts, List.forall_mem_append] at admitted
  have expr : holds true (item.expr.render config) := laws.expr item.expr admitted.1
  exact laws.join_of_mem (.append (laws.text (Or.inr expr)) (laws.optWord admitted.2))
    (List.mem_append_left _ (List.mem_singleton_self _)) expr

theorem limit (limit : Limit) {text : String} (admitted : ∀ entry ∈ limit.texts, admits entry)
    (written : limit.render? config = some text) : holds true text := by
  rw [Limit.texts, List.forall_mem_append, List.forall_mem_flatMap] at admitted
  have value : ∀ value ∈ limit.values.map (Expr.render config), holds true value :=
    List.forall_mem_map.mpr fun item inside => laws.expr item (admitted.2 item inside)
  have start : ∀ value, holds true value → holds true ("LIMIT" ++ " " ++ value) := fun value inner =>
    laws.joint (by decide) (laws.fixed (by decide)) inner
  rw [Limit.render?] at written
  split at written
  · cases written
  · rename_i count shape
    cases Option.some.inj written
    exact start count (value count (by simp [shape]))
  · rename_i first second _ shape
    have low := start first (value first (by simp [shape]))
    have high := value second (by simp [shape])
    split at written
    · cases Option.some.inj written
      exact laws.joint (by decide) low high
    · cases Option.some.inj written
      exact laws.comma low high

theorem clause {keyword operand : String} (word : keyword ∈ fixedWords)
    (inner : OrEmpty (holds true) operand) : AllFit holds true (Select.clause keyword operand) :=
  (laws.fixedText word).append (laws.text inner)

theorem select (select : Select) (admitted : ∀ entry ∈ select.texts, admits entry) :
    OrEmpty (holds true) (select.render config) := by
  simp only [Select.texts, List.forall_mem_append] at admitted
  obtain ⟨⟨⟨⟨⟨⟨⟨⟨distinct, columns⟩, source⟩, condition⟩, groupBy⟩, having⟩, orderBy⟩, limit⟩, _⟩ :=
    admitted
  rw [forall_mem_partTexts] at source condition having limit
  rw [forall_mem_listTexts] at groupBy orderBy
  apply laws.join
  rw [Select.tokens]
  refine .append (.append (.append (.append (.append (.append (.append (.append ?keyword ?distinct)
    ?columns) (.part ?source)) (.part ?condition)) (.part ?groupBy)) (.part ?having)) (.part ?orderBy)) ?limit
  case keyword => exact laws.fixedText (by decide)
  case distinct => exact laws.marker (by decide) distinct
  case columns => exact laws.text (laws.selectColumns select.columns columns)
  case source =>
    exact fun tables found =>
      laws.clause (by decide) (laws.tables tables (source tables found) (Or.inl rfl))
  case condition =>
    exact fun expr found => laws.clause (by decide) (Or.inr (laws.expr expr (condition expr found)))
  case groupBy =>
    intro items found
    rw [(Option.filter_eq_some_iff.mp found).1] at groupBy
    exact laws.clause (by decide) (laws.exprList items groupBy)
  case having =>
    exact fun expr found => laws.clause (by decide) (Or.inr (laws.expr expr (having expr found)))
  case orderBy =>
    intro items found
    rw [(Option.filter_eq_some_iff.mp found).1] at orderBy
    exact laws.clause (by decide)
      (laws.commaList fun item inside => laws.orderItem item (orderBy item inside))
  case limit =>
    refine laws.opt fun text found => Or.inr ?_
    obtain ⟨value, same, written⟩ := Option.bind_eq_some_iff.mp found
    exact laws.limit value (limit value same) written

theorem operation (select : Select) (admitted : ∀ entry ∈ select.texts, admits entry) :
    holds true select.operation := by
  rw [Select.texts, List.forall_mem_append] at admitted
  rw [Select.operation]
  cases found : select.setOperation.bind keyword? with
  | none => exact laws.fixed (by decide)
  | some keyword => exact laws.optKeyword admitted.2 found

theorem laterSelects (last : Select) (later : List Select)
    (admitted : ∀ select ∈ last :: later, ∀ entry ∈ select.texts, admits entry) :
    AllFit holds true (Query.laterTokens config last later) := by
  induction later generalizing last with
  | nil => exact .empty
  | cons next later ih =>
    obtain ⟨inLast, rest⟩ := List.forall_mem_cons.mp admitted
    refine .append (.append ?operation ?select) (ih next rest)
    case operation => exact laws.text (Or.inr (laws.operation last inLast))
    case select => exact laws.text (laws.select next (rest next List.mem_cons_self))

theorem query (query : Query) (admitted : ∀ entry ∈ query.texts, admits entry) :
    OrEmpty (holds true) (query.render config) := by
  rw [Query.texts, List.forall_mem_append, List.forall_mem_flatMap] at admitted
  exact laws.join ((laws.text (laws.select query.first admitted.1)).append
    (laws.laterSelects query.first query.later (List.forall_mem_cons.mpr admitted)))

end Select

end SqlDdl.Layout
