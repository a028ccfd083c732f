import SqlDdl.Definition.Render
import SqlDdl.Proofs.LayoutSql

/-! The SQL of the definitions in the body of a table has every property of a layout. A definition whose
references are to one table each has no comma outside of parentheses. -/

namespace SqlDdl

/-- The reference of a constraint. -/
def ConstraintDefinition.references (constraint : ConstraintDefinition) : List ReferenceDefinition :=
  constraint.reference.toList

/-- The references of a column: its own one, and that of its check. -/
def ColumnDefinition.references (column : ColumnDefinition) : List ReferenceDefinition :=
  column.check.toList.flatMap ConstraintDefinition.references ++ column.reference.toList

/-- The references of a definition. -/
def Definition.references : Definition → List ReferenceDefinition
  | column value => value.references
  | constraint value => value.references
  | index _ | unsupported _ => []

/-- Whether no reference is to several tables. -/
def AreSingle (references : List ReferenceDefinition) : Prop :=
  ∀ reference ∈ references, reference.table.toList.length ≤ 1

instance (references : List ReferenceDefinition) : Decidable (AreSingle references) :=
  inferInstanceAs (Decidable (∀ reference ∈ references, reference.table.toList.length ≤ 1))

namespace Layout

variable {config : Config} {admits : RoleText → Prop} {holds : Bool → String → Prop} {commas : Bool}
  (laws : Layout config admits holds)
include laws

section Parts

theorem dataType (dataType : DataType) (admitted : ∀ entry ∈ dataType.texts, admits entry) :
    OrEmpty (holds commas) dataType.render := by
  rw [DataType.texts, List.forall_mem_cons, forall_mem_listTexts] at admitted
  obtain ⟨name, suffixes⟩ := admitted
  refine laws.join (.append (laws.text (laws.typeName name ?size)) (.concat ?suffixes))
  case size =>
    split
    · rename_i length scale _ _
      have numbers : holds true (toString length ++ ", " ++ toString scale) :=
        laws.comma (laws.nat length) (laws.nat scale)
      exact Or.inr (laws.parenthesized (Or.inr numbers))
    · exact Or.inr (laws.parenthesized (Or.inr (laws.nat _)))
    · exact Or.inl rfl
  case suffixes =>
    exact fun suffix inside => laws.word (suffixes suffix inside _ (List.mem_singleton_self _))

theorem words (pair : KeywordValue) (admitted : ∀ entry ∈ pair.texts .keyword, admits entry) :
    AllFit holds commas pair.words := by
  rw [KeywordValue.texts, List.forall_mem_cons, List.forall_mem_singleton] at admitted
  exact (laws.word admitted.1).append (laws.word admitted.2)

theorem setting (setting : ExprSetting) (admitted : ∀ entry ∈ setting.texts, admits entry) :
    AllFit holds commas (setting.tokens config) := by
  rw [ExprSetting.texts, List.forall_mem_append, List.forall_mem_cons] at admitted
  obtain ⟨⟨word, symbol⟩, value⟩ := admitted
  exact .append (.append (laws.word word) (laws.optVerbatim symbol))
    (laws.text (Or.inr (laws.expr setting.value value)))

theorem group (items : List Expr) (admitted : ∀ entry ∈ items.flatMap Expr.texts, admits entry) :
    holds commas (Expr.renderGroup config items) :=
  laws.parenthesized (laws.exprList items (List.forall_mem_flatMap.mp admitted))

theorem indexOptions (options : Option (List ExprSetting))
    (admitted : ∀ entry ∈ listTexts ExprSetting.texts options, admits entry) :
    AllFit holds commas (renderIndexOptions config options) := by
  rw [forall_mem_listTexts] at admitted
  exact .extend fun option inside => laws.trimmed (laws.join (laws.setting option (admitted option inside)))

theorem indexKind (kind : Option KeywordValue)
    (admitted : ∀ entry ∈ partTexts (KeywordValue.texts .keyword) kind, admits entry) :
    AllFit holds commas (.opt (kind.map fun kind => kind.words.join)) := by
  rw [forall_mem_partTexts] at admitted
  refine laws.opt fun text found => ?_
  obtain ⟨pair, same, rfl⟩ := Option.map_eq_some_iff.mp found
  exact laws.join (laws.words pair (admitted pair same))

/-- A reference has the property. One to a single table has no comma outside of parentheses. -/
theorem reference (reference : ReferenceDefinition) (admitted : ∀ entry ∈ reference.texts, admits entry)
    (single : commas = true ∨ reference.table.toList.length ≤ 1) :
    OrEmpty (holds commas) (reference.render config) := by
  rw [ReferenceDefinition.texts, List.forall_mem_append, List.forall_mem_append,
    List.forall_mem_flatMap (p := admits) (l := reference.actions)] at admitted
  obtain ⟨⟨table, columns⟩, actions⟩ := admitted
  refine laws.join (.append (.append (.append ?keyword ?table) ?columns) (.concat ?actions))
  case keyword => exact laws.fixedText (by decide)
  case table => exact laws.text (laws.tables reference.table table single)
  case columns =>
    split
    · exact .empty
    · exact laws.text (Or.inr (laws.group reference.columns columns))
  case actions => exact fun action inside => laws.words action (actions action inside)

end Parts

section Definition

theorem index (index : IndexDefinition) (admitted : ∀ entry ∈ index.texts, admits entry) :
    AllFit holds commas (index.tokens config) := by
  rw [IndexDefinition.texts, List.forall_mem_append, List.forall_mem_append, List.forall_mem_append,
    List.forall_mem_cons] at admitted
  obtain ⟨⟨⟨⟨word, name⟩, kind⟩, columns⟩, options⟩ := admitted
  refine .append (.append (.append (.append ?word ?name) ?kind) ?columns) ?options
  case word => exact laws.word word
  case name => exact laws.optName name
  case kind => exact laws.indexKind index.kind kind
  case columns => exact laws.text (Or.inr (laws.group index.columns columns))
  case options => exact laws.indexOptions index.options options

theorem constraint (constraint : ConstraintDefinition)
    (admitted : ∀ entry ∈ constraint.texts, admits entry)
    (single : commas = true ∨ AreSingle constraint.references) :
    AllFit holds commas (constraint.tokens config) := by
  simp only [ConstraintDefinition.texts, List.forall_mem_append] at admitted
  obtain ⟨⟨⟨⟨⟨⟨⟨name, keyword⟩, kind⟩, index⟩, indexKind⟩, exprs⟩, reference⟩, options⟩ := admitted
  rw [forall_mem_partTexts] at reference
  have group : AllFit holds commas (.text (Expr.renderGroup config constraint.exprs)) :=
    laws.text (Or.inr (laws.group constraint.exprs exprs))
  have named : AllFit holds commas (constraint.nameTokens config) := by
    refine .append (laws.opt fun text found => ?_) (laws.optName name)
    split at found
    · rename_i value present
      exact Or.inr (laws.keyword (forall_mem_roleText?.mp keyword value present) found)
    · obtain ⟨_, _, rfl⟩ := Option.map_eq_some_iff.mp found
      exact Or.inr (laws.fixed (by decide))
  rw [ConstraintDefinition.tokens]
  split
  · exact .append (.append named (laws.fixedText (by decide))) group
  · refine .append (.append (.append (.append (.append (.append named ?kind) ?index) ?indexKind)
      group) ?reference) ?options
    case kind => exact laws.word (kind _ (List.mem_singleton_self _))
    case index => exact laws.optName index
    case indexKind => exact laws.indexKind constraint.indexKind indexKind
    case reference =>
      refine .part fun value found => laws.text (laws.reference value (reference value found) ?_)
      exact single.imp_right fun each => each value (Option.mem_toList.mpr found)
    case options => exact laws.indexOptions constraint.options options

theorem generated (generated : GeneratedColumn) (admitted : ∀ entry ∈ generated.texts, admits entry) :
    AllFit holds commas (generated.tokens config) := by
  rw [GeneratedColumn.texts, List.forall_mem_append, List.forall_mem_append] at admitted
  obtain ⟨⟨keyword, expr⟩, storage⟩ := admitted
  refine .append (.append (.append ?words ?last) ?expr) (laws.optWord storage)
  case words =>
    cases found : generated.keyword.bind keyword? with
    | none => exact laws.fixedText (by decide)
    | some normal => exact laws.text (Or.inr (laws.optKeyword keyword found))
  case last =>
    split
    · exact .empty
    · exact laws.fixedText (by decide)
  case expr =>
    have inner : holds true (generated.expr.render config) := laws.expr generated.expr expr
    exact laws.text (Or.inr (laws.parenthesized (Or.inr inner)))

theorem column (column : ColumnDefinition) (admitted : ∀ entry ∈ column.texts, admits entry)
    (single : commas = true ∨ AreSingle column.references) :
    AllFit holds commas (column.fieldTokens config) := by
  simp only [ColumnDefinition.texts, List.forall_mem_append] at admitted
  obtain ⟨⟨⟨⟨⟨⟨⟨⟨⟨⟨⟨⟨⟨⟨name, dataType⟩, nullable⟩, default⟩, autoIncrement⟩, unique⟩, primaryKey⟩,
    collate⟩, check⟩, generated⟩, characterSet⟩, columnFormat⟩, storage⟩, comment⟩, reference⟩ :=
    admitted
  rw [forall_mem_partTexts] at default collate check generated
  rw [forall_mem_partTexts] at characterSet columnFormat storage comment reference
  rw [ColumnDefinition.fieldTokens]
  refine .append (.append (.append (.append (.append (.append (.append (.append (.append (.append
    (.append (.append (.append (.append ?name ?dataType) ?nullable) ?default) ?autoIncrement)
    ?unique) ?primaryKey) ?collate) ?check) ?generated) ?characterSet) ?columnFormat) ?storage)
    ?comment) ?reference
  case name => exact laws.text (Or.inr (laws.columnRef column.column name))
  case dataType => exact laws.text (laws.dataType column.dataType dataType)
  case nullable => exact laws.optWord nullable
  case default =>
    refine .part fun pair found => ?_
    have inPair := default pair found
    rw [KeywordExpr.texts, List.forall_mem_cons] at inPair
    exact (laws.word inPair.1).append (laws.text (Or.inr (laws.expr pair.value inPair.2)))
  case autoIncrement => exact laws.optWord autoIncrement
  case unique => exact laws.optWord unique
  case primaryKey => exact laws.optWord primaryKey
  case collate =>
    refine .part fun pair found => ?_
    have inPair := collate pair found
    rw [KeywordValue.texts, List.forall_mem_cons, List.forall_mem_singleton] at inPair
    exact (laws.word inPair.1).append (laws.text (laws.verbatim inPair.2))
  case check =>
    refine .part fun constraint found => ?_
    refine laws.constraint constraint (check constraint found) (single.imp_right ?_)
    exact fun each reference member => each reference (List.mem_append_left _
      (List.mem_flatMap.mpr ⟨constraint, Option.mem_toList.mpr found, member⟩))
  case generated => exact .part fun value found => laws.generated value (generated value found)
  case characterSet =>
    refine .part fun setting found => ?_
    have inSetting := characterSet setting found
    rw [KeywordSetting.texts, List.forall_mem_append, List.forall_mem_cons,
      List.forall_mem_singleton] at inSetting
    obtain ⟨⟨word, symbol⟩, value⟩ := inSetting
    exact ((laws.word word).append (laws.optVerbatim symbol)).append (laws.text (laws.verbatim value))
  case columnFormat => exact .part fun pair found => laws.words pair (columnFormat pair found)
  case storage => exact .part fun pair found => laws.words pair (storage pair found)
  case comment => exact .part fun setting found => laws.setting setting (comment setting found)
  case reference =>
    refine .part fun value found => laws.text (laws.reference value (reference value found) ?_)
    exact single.imp_right fun each =>
      each value (List.mem_append_right _ (Option.mem_toList.mpr found))

/-- A definition has the property. If its references are to single tables, then no comma is outside of
parentheses. -/
theorem definition (definition : Definition) (admitted : ∀ entry ∈ definition.texts, admits entry)
    (single : commas = true ∨ AreSingle definition.references) {tokens : Tokens}
    (rendered : definition.tokens config = .ok tokens) : holds commas tokens.join := by
  cases definition with
  | column value =>
    replace rendered : value.tokens config = .ok tokens := rendered
    rw [ColumnDefinition.tokens] at rendered
    split at rendered
    · cases rendered
    · rw [← Except.ok.inj rendered]
      have name : holds commas (value.column.render config) := by
        simp only [Definition.texts, ColumnDefinition.texts, List.forall_mem_append] at admitted
        exact laws.columnRef value.column admitted.1.1.1.1.1.1.1.1.1.1.1.1.1.1
      exact laws.join_of_mem (laws.column value admitted single) (by simp [ColumnDefinition.fieldTokens]) name
  | index value =>
    rw [← Except.ok.inj rendered]
    have group : holds commas (Expr.renderGroup config value.columns) := by
      simp only [Definition.texts, IndexDefinition.texts, List.forall_mem_append] at admitted
      exact laws.group value.columns admitted.1.2
    exact laws.join_of_mem (laws.index value admitted) (by simp [IndexDefinition.tokens]) group
  | constraint value =>
    rw [← Except.ok.inj rendered]
    have group : holds commas (Expr.renderGroup config value.exprs) := by
      simp only [Definition.texts, ConstraintDefinition.texts, List.forall_mem_append] at admitted
      exact laws.group value.exprs admitted.1.1.2
    refine laws.join_of_mem (laws.constraint value admitted single) ?_ group
    rw [ConstraintDefinition.tokens]
    split <;> simp
  | unsupported => cases rendered

end Definition

end Layout

end SqlDdl
