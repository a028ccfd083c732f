import SqlDdl.Proofs.KeywordForm
import SqlDdl.Proofs.LayoutDefinition
import SqlDdl.Proofs.Outcomes
import SqlDdl.Statement.Render

/-! The SQL of a whole statement has every property of a layout, unless it is empty. -/

namespace SqlDdl

/-- The events of a trigger. -/
def Statement.events : Statement → List TriggerEvent
  | trigger value => value.events
  | table _ | unsupported _ => []

namespace Layout

variable {config : Config} {admits : RoleText → Prop} {holds : Bool → String → Prop}
  (laws : Layout config admits holds)
include laws

section Table

theorem head (statement : TableStatement) (admitted : ∀ entry ∈ statement.texts, admits entry) :
    AllFit holds true (statement.headTokens config) := by
  simp only [TableStatement.texts, List.forall_mem_append, List.forall_mem_cons] at admitted
  obtain ⟨⟨⟨⟨⟨⟨⟨⟨⟨⟨create, temporary⟩, keyword, _⟩, table⟩, ifNotExists⟩, _⟩, _⟩, _⟩, _⟩, _⟩, _⟩ := admitted
  refine .append (.append (.append (.append ?create ?temporary) ?keyword) ?ifNotExists) ?table
  case create => exact laws.word create
  case temporary => exact laws.marker (by decide) temporary
  case keyword => exact laws.word keyword
  case ifNotExists => exact laws.marker (by decide) ifNotExists
  case table => exact laws.text (laws.tables statement.table table (Or.inl rfl))

theorem body (definitions : List Definition)
    (admitted : ∀ definition ∈ definitions, ∀ entry ∈ definition.texts, admits entry) {text : String}
    (rendered : TableStatement.renderBody config definitions = .ok text) : holds true text := by
  obtain ⟨written, each, same⟩ := bind_eq_ok.mp rendered
  rw [← Except.ok.inj same]
  refine laws.parenthesized (.intercalate laws.comma fun text member => ?_)
  obtain ⟨definition, inside, found⟩ := exists_of_mem_forall₂ (mapM_eq_ok each) member
  obtain ⟨tokens, own, joined⟩ := bind_eq_ok.mp found
  rw [← Except.ok.inj joined]
  exact laws.definition definition (admitted definition inside) (Or.inl rfl) own

theorem tail (statement : TableStatement) (admitted : ∀ entry ∈ statement.texts, admits entry) :
    AllFit holds true (statement.tailTokens config) := by
  simp only [TableStatement.texts, List.forall_mem_append] at admitted
  obtain ⟨⟨⟨⟨_, options⟩, ignoreReplace⟩, asMarker⟩, query⟩ := admitted
  rw [forall_mem_listTexts] at options
  rw [forall_mem_partTexts] at query
  refine .append (.append (.append (.extend ?options) ?ignoreReplace) ?asMarker) (.part ?query)
  case options => exact fun option inside => laws.trimmed (laws.tableOption option (options option inside))
  case ignoreReplace => exact laws.marker (by decide) ignoreReplace
  case asMarker => exact laws.marker (by decide) asMarker
  case query => exact fun value found => laws.text (laws.query value (query value found))

theorem table (statement : TableStatement) (admitted : ∀ entry ∈ statement.texts, admits entry)
    {sql : String} (rendered : statement.render config = .ok sql) : OrEmpty (holds true) sql := by
  obtain ⟨tokens, found, rfl⟩ := map_eq_ok.mp rendered
  apply laws.join
  have head := laws.head statement admitted
  have tail := laws.tail statement admitted
  simp only [TableStatement.texts, List.forall_mem_append] at admitted
  obtain ⟨⟨⟨⟨⟨⟨_, like⟩, definitions⟩, _⟩, _⟩, _⟩, _⟩ := admitted
  rw [forall_mem_partTexts] at like
  rw [forall_mem_listTexts] at definitions
  rw [TableStatement.tokens] at found
  split at found
  · rename_i source present
    rw [← Except.ok.inj found]
    have inSource := like source present
    rw [LikeClause.texts, List.forall_mem_cons] at inSource
    exact (head.append (laws.word inSource.1)).append
      (laws.text (laws.tables source.table inSource.2 (Or.inl rfl)))
  · obtain ⟨body, own, same⟩ := bind_eq_ok.mp found
    rw [← Except.ok.inj same]
    refine .append (.append head ?body) tail
    rw [TableStatement.bodyTokens] at own
    split at own
    · rw [← Except.ok.inj own]
      exact .empty
    · rename_i items present
      obtain ⟨text, written, rfl⟩ := map_eq_ok.mp own
      rw [present, Option.getD_some] at definitions
      exact laws.text (Or.inr (laws.body items definitions written))

end Table

section Trigger

/-- An event has the property if it names something. -/
theorem event (event : TriggerEvent) (admitted : ∀ entry ∈ event.texts, admits entry)
    (named : hasText event.keyword = true ∨ holds true "") : holds true (event.render config) := by
  rw [TriggerEvent.texts, List.forall_mem_cons, forall_mem_partTexts] at admitted
  obtain ⟨word, columns⟩ := admitted
  have tokens : AllFit holds true (.word event.keyword ++ .part event.columns fun columns =>
      .word columns.keyword ++ .text (ColumnRef.renderList config columns.columns)) := by
    refine (laws.word word).append (.part fun value found => ?_)
    have inColumns := columns value found
    rw [EventColumns.texts, List.forall_mem_cons, List.forall_mem_flatMap] at inColumns
    refine (laws.word inColumns.1).append (laws.text (laws.commaList ?_))
    exact fun ref inside => laws.columnRef ref (inColumns.2 ref inside)
  rcases named with filled | empty
  · obtain ⟨keyword, normal⟩ := exists_keyword?_iff.mpr filled
    exact laws.join_of_mem tokens (by simp [normal]) (laws.keyword word normal)
  · rcases laws.join tokens with none | some
    · rw [TriggerEvent.render, none]
      exact empty
    · exact some

theorem keywordArgs (clause : KeywordArgs) (admitted : ∀ entry ∈ clause.texts, admits entry) :
    AllFit holds true clause.words := by
  rw [KeywordArgs.texts, List.forall_mem_cons] at admitted
  exact (laws.word admitted.1).append (laws.optWord admitted.2)

theorem condition (clause : TriggerCondition) (admitted : ∀ entry ∈ clause.texts, admits entry) :
    AllFit holds true (clause.tokens config) := by
  rw [TriggerCondition.texts, List.forall_mem_cons] at admitted
  refine (laws.word admitted.1).append (laws.text (Or.inr (laws.parenthesizedIf _ ?_)))
  exact laws.expr clause.condition admitted.2

theorem action (action : TriggerAction) (admitted : ∀ entry ∈ action.texts, admits entry) :
    AllFit holds true (action.tokens config) := by
  rw [TriggerAction.texts, List.forall_mem_cons] at admitted
  exact (laws.word admitted.1).append
    (laws.text (Or.inr (laws.expr action.function.toExpr admitted.2)))

theorem trigger (statement : TriggerStatement) (admitted : ∀ entry ∈ statement.texts, admits entry)
    (named : ∀ event ∈ statement.events, hasText event.keyword = true ∨ holds true "") {sql : String}
    (rendered : statement.render config = .ok sql) : OrEmpty (holds true) sql := by
  simp only [TriggerStatement.texts, List.forall_mem_append, List.forall_mem_cons,
    List.forall_mem_flatMap] at admitted
  obtain ⟨⟨⟨⟨⟨⟨⟨⟨⟨⟨⟨create, isConstraint⟩, keyword, _⟩, name⟩, location⟩, events⟩, table⟩, source⟩, deferrable⟩,
    forEach⟩, condition⟩, action⟩ := admitted
  rw [forall_mem_partTexts] at source deferrable forEach condition
  rw [TriggerStatement.render] at rendered
  split at rendered
  · cases rendered
  rw [← Except.ok.inj rendered]
  apply laws.join
  rw [TriggerStatement.tokens]
  refine .append (.append (.append (.append (.append (.append (.append (.append (.append (.append
    (.append (.append ?create ?isConstraint) ?keyword) ?name) ?location) ?events) ?on) ?table)
    (.part ?source)) (.part ?deferrable)) (.part ?forEach)) (.part ?condition)) ?action
  case create => exact laws.word create
  case isConstraint => exact laws.marker (by decide) isConstraint
  case keyword => exact laws.word keyword
  case name => exact laws.optName name
  case location => exact laws.optWord location
  case events =>
    refine laws.text (.intercalate (laws.joint (by decide)) (List.forall_mem_map.mpr fun event inside => ?_))
    exact laws.event event (events event inside) (named event inside)
  case on => exact laws.fixedText (by decide)
  case table => exact laws.text (Or.inr (laws.tableRef statement.table table))
  case source =>
    exact fun value found => (laws.fixedText (by decide)).append
      (laws.text (Or.inr (laws.tableRef value (source value found))))
  case deferrable => exact fun clause found => laws.keywordArgs clause (deferrable clause found)
  case forEach => exact fun clause found => laws.keywordArgs clause (forEach clause found)
  case condition => exact fun clause found => laws.condition clause (condition clause found)
  case action => exact laws.action statement.action action

end Trigger

/-- A statement has the property, if it is not empty and its events name something. -/
theorem statement (statement : Statement) (admitted : ∀ entry ∈ statement.texts, admits entry)
    (named : ∀ event ∈ statement.events, hasText event.keyword = true ∨ holds true "") {sql : String}
    (rendered : statement.render config = .ok sql) : OrEmpty (holds true) sql := by
  cases statement with
  | table value => exact laws.table value admitted rendered
  | trigger value => exact laws.trigger value admitted named rendered
  | unsupported => cases rendered

end Layout

end SqlDdl
