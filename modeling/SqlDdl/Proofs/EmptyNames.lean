import SqlDdl.Proofs.EmptyGaps
import SqlDdl.Proofs.Failures
import SqlDdl.Proofs.NameLists
import SqlDdl.Proofs.RewrittenStatement
import SqlDdl.Proofs.TableBody
import SqlDdl.Proofs.TriggerEvents

/-! An empty name that need not be given is written as if it were absent, unless it is the name of an index. -/

namespace SqlDdl

namespace Rewriting

/-- Leaves out every name that is empty and need not be given. -/
def nonempty : Rewriting := { optName := nonempty?, indexName := nonempty? }

/-- Leaves out the same names, except those of indexes. -/
def tested : Rewriting := { optName := nonempty? }

/-- No rendering tells an empty name from an absent one where it is tested. -/
theorem preserves_tested (config : Config) : tested.Preserves config config where
  column _ := rfl
  optName name := congrArg (Option.map config.quote) (nonempty?_nonempty? name)
  indexName _ := rfl
  name _ := rfl
  string _ := rfl
  keyword _ := rfl
  check _ := rfl
  marker _ _ _ := rfl
  operator _ := rfl
  sign _ := rfl
  aggregate _ := rfl
  typeName _ := rfl

end Rewriting

section Agree

/-! Only indexes and constraints have a name for which the two rewritings are different. The maps are unfolded as
functions, since they stand without an argument inside of the maps of lists. -/

theorem Expr.map_nonempty : map .nonempty = map .tested := by
  delta map
  rfl

theorem Expr.mapItems_nonempty : mapItems .nonempty = mapItems .tested := by
  delta mapItems
  rfl

theorem Tables.map_nonempty : map .nonempty = map .tested := by
  delta map TableRef.map
  rw [Expr.map_nonempty]
  rfl

theorem Query.map_nonempty : map .nonempty = map .tested := by
  delta map Select.map SelectColumns.map SelectColumn.map OrderItem.map Limit.map
  rw [Expr.map_nonempty, Tables.map_nonempty]
  rfl

theorem TriggerStatement.map_nonempty : map .nonempty = map .tested := by
  delta map TriggerCondition.map TriggerAction.map FunctionCall.map TableRef.map
  rw [Expr.map_nonempty, Expr.mapItems_nonempty]
  rfl

theorem IndexDefinition.map_nonempty (index : IndexDefinition) :
    index.map .nonempty = { index.map .tested with name := nonempty? index.name } := by
  delta map ExprSetting.map
  rw [Expr.map_nonempty]
  rfl

theorem ConstraintDefinition.map_nonempty (constraint : ConstraintDefinition) :
    constraint.map .nonempty = { constraint.map .tested with index := nonempty? constraint.index } := by
  delta map ReferenceDefinition.map ExprSetting.map
  rw [Expr.map_nonempty, Tables.map_nonempty]
  rfl

theorem ColumnDefinition.map_nonempty (column : ColumnDefinition) :
    column.map .nonempty =
      { column.map .tested with check := column.check.map (ConstraintDefinition.map .nonempty) } := by
  delta map ReferenceDefinition.map ExprSetting.map KeywordExpr.map GeneratedColumn.map
  rw [Expr.map_nonempty, Tables.map_nonempty]
  rfl

theorem TableStatement.map_nonempty (statement : TableStatement) :
    statement.map .nonempty = { statement.map .tested with
      definitions := statement.definitions.map (List.map (Definition.map .nonempty)) } := by
  delta map TableOption.map OptionValue.map LikeClause.map
  rw [Expr.map_nonempty, Tables.map_nonempty, Query.map_nonempty]
  rfl

end Agree

section Definition

variable {config : Config}

/-- The place of a name before a group of expressions. -/
theorem EmptyGap.ofGroup {name name' : Option String} (same : nonempty? name = nonempty? name')
    (front middle : Tokens) (items : List Expr) :
    EmptyGap config (name == some "") (name' == some "")
      (front ++ .opt (name.map config.quote) ++ middle ++ .text (Expr.renderGroup config items)).toList
      (front ++ .opt (name'.map config.quote) ++ middle ++ .text (Expr.renderGroup config items)).toList := by
  have group : (Tokens.text (Expr.renderGroup config items)).toList =
      [parenthesized (Expr.renderList config items)] := Tokens.toList_text (.parenthesized _)
  have opening : '(' ∈ (parenthesized (Expr.renderList config items)).toList := by
    rw [parenthesized, String.toList_append, String.toList_append]
    exact List.mem_append_left _ (List.mem_append_left _ (by decide))
  simp only [Tokens.toList_append, group, List.append_assoc (_ ++ _) middle.toList]
  exact .ofNames same front.toList ⟨_, List.mem_append_right _ (List.mem_singleton_self _), opening⟩

/-- An index with another name. -/
theorem IndexDefinition.emptyGap (index : IndexDefinition) {name : Option String}
    (same : nonempty? index.name = nonempty? name) :
    EmptyGap config (index.name == some "") (name == some "") (index.tokens config).toList
      (tokens config { index with name := name }).toList :=
  (EmptyGap.ofGroup same _ _ index.columns).append _

/-- Whether a constraint has an empty name of an index in its SQL. -/
def ConstraintDefinition.hasEmptyIndex (constraint : ConstraintDefinition) : Bool :=
  !constraint.isCheck && constraint.index == some ""

/-- A constraint with another name of its index. -/
theorem ConstraintDefinition.emptyGap (constraint : ConstraintDefinition) {name : Option String}
    (same : nonempty? constraint.index = nonempty? name) :
    EmptyGap config constraint.hasEmptyIndex (hasEmptyIndex { constraint with index := name })
      (constraint.tokens config).toList (tokens config { constraint with index := name }).toList := by
  have kind : isCheck { constraint with index := name } = constraint.isCheck := rfl
  rw [hasEmptyIndex, hasEmptyIndex, tokens, tokens, kind]
  cases constraint.isCheck with
  | true => exact .same _ _
  | false => exact ((EmptyGap.ofGroup same _ _ constraint.exprs).append _).append _

/-- The tokens of a column before its check. -/
def ColumnDefinition.earlierTokens (config : Config) (column : ColumnDefinition) : Tokens :=
  .text (column.column.render config) ++ .text column.dataType.render
    ++ .optWord (column.nullable.map (·.value))
    ++ .part column.default (fun value => .word value.keyword ++ .text (value.value.render config))
    ++ .optWord column.autoIncrement ++ .optWord column.unique ++ .optWord column.primaryKey
    ++ .part column.collate (fun collate => .word collate.keyword ++ .text collate.value)

theorem ColumnDefinition.emptyGap_fieldTokens {column : ColumnDefinition} {check : Option ConstraintDefinition}
    {written written' : Bool}
    (gap : EmptyGap config written written' (Tokens.part column.check (ConstraintDefinition.tokens config)).toList
      (Tokens.part check (ConstraintDefinition.tokens config)).toList) :
    EmptyGap config written written' (column.fieldTokens config).toList
      (fieldTokens config { column with check := check }).toList :=
  ((((((gap.prepend (column.earlierTokens config)).append _).append _).append _).append _).append _).append _

theorem IndexDefinition.emptyGap_of_map {index index' : IndexDefinition}
    (same : index.map .nonempty = index'.map .nonempty) :
    EmptyGap config (index.name == some "") (index'.name == some "") (index.tokens config).toList
      (index'.tokens config).toList := by
  rw [map_nonempty, map_nonempty] at same
  have names : nonempty? index.name = nonempty? index'.name := congrArg name same
  have others : index'.map .tested = { index.map .tested with name := index'.name } :=
    congrArg (fun index : IndexDefinition => { index with name := index'.name }) same.symm
  rw [← index.tokens_map (Rewriting.preserves_tested config),
    ← index'.tokens_map (Rewriting.preserves_tested config), others]
  exact (index.map .tested).emptyGap names

theorem ConstraintDefinition.emptyGap_of_map {constraint constraint' : ConstraintDefinition}
    (same : constraint.map .nonempty = constraint'.map .nonempty) :
    EmptyGap config constraint.hasEmptyIndex constraint'.hasEmptyIndex (constraint.tokens config).toList
      (constraint'.tokens config).toList := by
  rw [map_nonempty, map_nonempty] at same
  have names : nonempty? constraint.index = nonempty? constraint'.index := congrArg index same
  have others : constraint'.map .tested = { constraint.map .tested with index := constraint'.index } :=
    congrArg (fun constraint : ConstraintDefinition => { constraint with index := constraint'.index }) same.symm
  have empty : (constraint'.map .tested).hasEmptyIndex = constraint'.hasEmptyIndex := rfl
  rw [← constraint.tokens_map (Rewriting.preserves_tested config), ← empty,
    ← constraint'.tokens_map (Rewriting.preserves_tested config), others]
  exact (constraint.map .tested).emptyGap names

theorem ColumnDefinition.emptyGap_of_map {column column' : ColumnDefinition}
    (same : column.map .nonempty = column'.map .nonempty) :
    EmptyGap config (column.check.any ConstraintDefinition.hasEmptyIndex)
      (column'.check.any ConstraintDefinition.hasEmptyIndex) (column.fieldTokens config).toList
      (column'.fieldTokens config).toList := by
  rw [map_nonempty, map_nonempty] at same
  have checks : column.check.map (ConstraintDefinition.map .nonempty) =
      column'.check.map (ConstraintDefinition.map .nonempty) := congrArg check same
  have others : column'.map .tested =
      { column.map .tested with check := column'.check.map (ConstraintDefinition.map .tested) } :=
    congrArg (fun column : ColumnDefinition =>
      { column with check := column'.check.map (ConstraintDefinition.map .tested) }) same.symm
  rw [← column.fieldTokens_map (Rewriting.preserves_tested config),
    ← column'.fieldTokens_map (Rewriting.preserves_tested config), others]
  apply emptyGap_fieldTokens
  have tested := Tokens.part_map (ConstraintDefinition.tokens_map (Rewriting.preserves_tested config))
  show EmptyGap config _ _ (Tokens.part (column.check.map (ConstraintDefinition.map .tested)) _).toList _
  rw [tested column.check, tested column'.check]
  cases own : column.check with
  | none =>
    rw [own] at checks
    rw [Option.map_eq_none_iff.mp checks.symm]
    exact .same _ _
  | some check =>
    rw [own] at checks
    obtain ⟨check', present, mapped⟩ := Option.map_eq_some_iff.mp checks.symm
    have gap := @ConstraintDefinition.emptyGap_of_map config check check' mapped.symm
    rw [present]
    simpa only [Option.any_some, Tokens.part] using gap

/-- Whether a definition has an empty name of an index in its SQL. -/
def Definition.hasEmptyIndex : Definition → Bool
  | column value => value.check.any ConstraintDefinition.hasEmptyIndex
  | index value => value.name == some ""
  | constraint value => value.hasEmptyIndex
  | unsupported _ => false

/-- The outcomes of two definitions that are the same without their empty names. -/
theorem Definition.tokens_of_map {definition definition' : Definition}
    (same : definition.map .nonempty = definition'.map .nonempty) :
    (∃ error, definition.tokens config = .error error ∧ definition'.tokens config = .error error) ∨
    ∃ tokens tokens', definition.tokens config = .ok tokens ∧ definition'.tokens config = .ok tokens' ∧
      EmptyGap config definition.hasEmptyIndex definition'.hasEmptyIndex tokens.toList tokens'.toList := by
  cases definition with
  | column value =>
    cases definition' with
    | column value' =>
      have columns : value.map .nonempty = value'.map .nonempty := Definition.column.inj same
      have unchanged : ∀ value : ColumnDefinition,
          (value.map .nonempty).unsupportedField? = value.unsupportedField? := fun _ => rfl
      have fields : value.unsupportedField? = value'.unsupportedField? := by
        rw [← unchanged value, ← unchanged value', columns]
      rw [tokens, tokens, ColumnDefinition.tokens, ColumnDefinition.tokens, fields]
      cases value'.unsupportedField? with
      | some field => exact Or.inl ⟨_, rfl, rfl⟩
      | none => exact Or.inr ⟨_, _, rfl, rfl, ColumnDefinition.emptyGap_of_map columns⟩
    | _ => cases same
  | index value =>
    cases definition' with
    | index value' => exact Or.inr ⟨_, _, rfl, rfl, IndexDefinition.emptyGap_of_map (Definition.index.inj same)⟩
    | _ => cases same
  | constraint value =>
    cases definition' with
    | constraint value' =>
      exact Or.inr ⟨_, _, rfl, rfl, ConstraintDefinition.emptyGap_of_map (Definition.constraint.inj same)⟩
    | _ => cases same
  | unsupported resource =>
    cases definition' with
    | unsupported resource' =>
      cases same
      exact Or.inl ⟨_, rfl, rfl⟩
    | _ => cases same

end Definition

section Statement

variable {config : Config}

/-- The SQL of a definition, unless it has none. -/
def Definition.text (config : Config) (definition : Definition) : Except Error String := do
  return (← definition.tokens config).join

/-- The outcomes of two lists of definitions that are the same without their empty names. -/
theorem Definition.mapM_text_of_map {definitions definitions' : List Definition}
    (same : definitions.map (map .nonempty) = definitions'.map (map .nonempty)) :
    (∃ error, definitions.mapM (text config) = .error error ∧ definitions'.mapM (text config) = .error error) ∨
    ∃ texts texts', definitions.mapM (text config) = .ok texts ∧ definitions'.mapM (text config) = .ok texts' ∧
      Alike config commaTail (definitions.map hasEmptyIndex) (definitions'.map hasEmptyIndex) texts texts' := by
  -- The first definition with another empty name sets the texts apart, whatever the later ones are.
  induction definitions generalizing definitions' with
  | nil =>
    cases List.map_eq_nil_iff.mp same.symm
    exact Or.inr ⟨[], [], rfl, rfl, iff_of_true rfl (Or.inr rfl), Or.inl rfl⟩
  | cons definition definitions ih =>
    cases definitions' with
    | nil => cases same
    | cons definition' definitions' =>
      obtain ⟨first, rest⟩ := List.cons.inj same
      rw [List.mapM_cons, List.mapM_cons, text, text]
      rcases tokens_of_map first with ⟨error, own, other⟩ | ⟨tokens, tokens', own, other, gap⟩
      · rw [own, other]
        exact Or.inl ⟨error, rfl, rfl⟩
      · rw [own, other]
        rcases ih rest with ⟨error, later, later'⟩ | ⟨texts, texts', later, later', alike⟩
        · rw [later, later']
          exact Or.inl ⟨error, rfl, rfl⟩
        · rw [later, later']
          exact Or.inr ⟨_, _, rfl, rfl, gap.alike.cons alike⟩

theorem Definition.mapM_text_map (definitions : List Definition) :
    (definitions.map (map .tested)).mapM (text config) = definitions.mapM (text config) := by
  have each : ∀ definition : Definition, (definition.map .tested).text config = definition.text config := by
    intro definition
    rw [text, definition.tokens_map (Rewriting.preserves_tested config), text]
  simp only [List.mapM_map, Function.comp_def, each]

namespace TableStatement

/-- The SQL of a table whose definitions are written as some texts. -/
def withTexts (config : Config) (statement : TableStatement) (texts : List String) : String :=
  " ".intercalate ((statement.headTokens config).toList ++
    parenthesized (commaList texts) :: (statement.tailTokens config).toList)

theorem render_eq_withTexts {statement : TableStatement} {definitions : List Definition}
    (alone : statement.like = none) (present : statement.definitions = some definitions) :
    statement.render config = (definitions.mapM (Definition.text config)).map (statement.withTexts config) := by
  have body : renderBody config definitions =
      (definitions.mapM (Definition.text config)).map fun texts => parenthesized (commaList texts) := rfl
  cases ran : definitions.mapM (Definition.text config) with
  | error cause =>
    have failed : statement.bodyTokens config = .error cause := by
      rw [bodyTokens, present]
      exact map_eq_error.mpr (body.trans (congrArg _ ran))
    rw [render, tokens, alone]
    exact map_eq_error.mpr (bind_eq_error.mpr (Or.inl failed))
  | ok texts =>
    rw [ran] at body
    exact render_body alone present body

theorem withTexts_eq_iff {statement : TableStatement} {written written' : List Bool} {texts texts' : List String}
    (alike : Alike config commaTail written written' texts texts') :
    statement.withTexts config texts = statement.withTexts config texts' ↔
      config.quoting = .never ∨ written = written' := by
  rw [← alike.eq_iff]
  refine ⟨fun same => alike.eq_of_commaList ?_, congrArg _⟩
  simpa only [withTexts, intercalate_append _ _ (List.cons_ne_nil _ _), intercalate_cons, parenthesized,
    String.append_right_inj, String.append_left_inj] using same

/-- Which definitions of a table have an empty name of an index in its SQL. A table that is like another one has no
definitions in its SQL. -/
def emptyIndexes (statement : TableStatement) : List Bool :=
  if statement.like.isSome then [] else (statement.definitions.getD []).map Definition.hasEmptyIndex

theorem render_map_tested (statement : TableStatement) :
    (statement.map .tested).render config = statement.render config := by
  rw [render, render, statement.tokens_map (Rewriting.preserves_tested config)]

theorem render_definitions {statement : TableStatement} {like : LikeClause} (written : statement.like = some like)
    (definitions : Option (List Definition)) :
    render config { statement with definitions := definitions } = statement.render config := by
  have unchanged : ({ statement with definitions := definitions } : TableStatement).like = some like := written
  rw [render_like _ unchanged, render_like _ written]
  rfl

/-- Two bodies of a table that are the same without their empty names. -/
theorem render_withDefinitions_iff {statement : TableStatement} (alone : statement.like = none)
    {definitions definitions' : List Definition}
    (same : definitions'.map (Definition.map .nonempty) = definitions.map (Definition.map .nonempty)) :
    (statement.withDefinitions (definitions'.map (Definition.map .tested))).render config =
        (statement.withDefinitions (definitions.map (Definition.map .tested))).render config ↔
      config.quoting = .never ∨
        (∃ error, (statement.withDefinitions (definitions.map (Definition.map .tested))).render config =
          .error error) ∨
        definitions'.map Definition.hasEmptyIndex = definitions.map Definition.hasEmptyIndex := by
  have body : ∀ definitions : List Definition,
      (statement.withDefinitions (definitions.map (Definition.map .tested))).render config =
        (definitions.mapM (Definition.text config)).map (statement.withTexts config) := fun definitions => by
    rw [@render_eq_withTexts config (statement.withDefinitions _) _ alone rfl, Definition.mapM_text_map]
    rfl
  rw [body, body]
  rcases @Definition.mapM_text_of_map config _ _ same with
    ⟨error, fails', fails⟩ | ⟨texts', texts, runs', runs, alike⟩
  · rw [fails, fails']
    exact iff_of_true rfl (Or.inr (Or.inl ⟨error, rfl⟩))
  · have succeeds : ¬∃ error, (.ok texts : Except Error _).map (statement.withTexts config) = .error error := by
      rintro ⟨error, same⟩
      cases same
    rw [runs, runs', or_iff_right succeeds, ← @withTexts_eq_iff config statement _ _ _ _ alike]
    exact ⟨Except.ok.inj, congrArg Except.ok⟩

theorem render_eq_iff_emptyIndexes {statement other : TableStatement}
    (same : other.map .nonempty = statement.map .nonempty) :
    other.render config = statement.render config ↔
      config.quoting = .never ∨ (∃ error, statement.render config = .error error) ∨
        other.emptyIndexes = statement.emptyIndexes := by
  rw [map_nonempty, map_nonempty] at same
  have bodies : other.definitions.map (List.map (Definition.map .nonempty)) =
      statement.definitions.map (List.map (Definition.map .nonempty)) := congrArg definitions same
  have others : other.map .tested = { statement.map .tested with
      definitions := other.definitions.map (List.map (Definition.map .tested)) } :=
    congrArg (fun table : TableStatement =>
      { table with definitions := other.definitions.map (List.map (Definition.map .tested)) }) same
  have own : statement.map .tested = { statement.map .tested with
      definitions := statement.definitions.map (List.map (Definition.map .tested)) } := rfl
  have likes : other.like.map (LikeClause.map .tested) = statement.like.map (LikeClause.map .tested) :=
    congrArg like same
  have alone : other.like.isSome = statement.like.isSome := by
    simpa only [Option.isSome_map] using congrArg Option.isSome likes
  rw [← other.render_map_tested, ← statement.render_map_tested, emptyIndexes, emptyIndexes, alone, others]
  cases like : statement.like with
  | some like' =>
    have written : (statement.map .tested).like = some (like'.map .tested) := congrArg (Option.map _) like
    exact iff_of_true (render_definitions written _) (Or.inr (Or.inr rfl))
  | none =>
    have absent : (statement.map .tested).like = none := congrArg (Option.map _) like
    rw [own]
    cases present : statement.definitions with
    | none =>
      rw [present] at bodies
      rw [Option.map_eq_none_iff.mp bodies]
      exact iff_of_true rfl (Or.inr (Or.inr rfl))
    | some definitions =>
      rw [present] at bodies
      obtain ⟨definitions', present', bodies⟩ := Option.map_eq_some_iff.mp bodies
      rw [present']
      exact render_withDefinitions_iff absent bodies

end TableStatement

/-- Which definitions of a statement have an empty name of an index in its SQL. -/
def Statement.emptyIndexes : Statement → List Bool
  | table value => value.emptyIndexes
  | _ => []

/-- Two statements that are the same without the empty names that need not be given have the same result if and only
if the names of their indexes are empty in the same definitions, or nothing is quoted, or neither has any SQL. -/
theorem Statement.render_emptyNames_iff (statement other : Statement) (config : Config)
    (same : other.map .nonempty = statement.map .nonempty) :
    other.render config = statement.render config ↔
      config.quoting = .never ∨ (∃ error, statement.render config = .error error) ∨
        other.emptyIndexes = statement.emptyIndexes := by
  cases statement with
  | table value =>
    cases other with
    | table value' => exact TableStatement.render_eq_iff_emptyIndexes (Statement.table.inj same)
    | _ => cases same
  | trigger value =>
    cases other with
    | trigger value' =>
      have triggers : value'.map .tested = value.map .tested := by
        rw [← TriggerStatement.map_nonempty]
        exact Statement.trigger.inj same
      have results : (trigger value').render config = (trigger value).render config := by
        rw [← (trigger value').render_map (Rewriting.preserves_tested config), map, triggers]
        exact (trigger value).render_map (Rewriting.preserves_tested config)
      exact iff_of_true results (Or.inr (Or.inr rfl))
    | _ => cases same
  | unsupported keyword =>
    cases other with
    | unsupported keyword' =>
      cases same
      exact iff_of_true rfl (Or.inr (Or.inr rfl))
    | _ => cases same

/-- A table from a query, with one name wherever a name is tested. -/
def testedTable (name : Option String) : Statement :=
  .table { (TableStatement.plain ⟨name, "t", name, none, none, none⟩).withDefinitions
    [.column { ColumnDefinition.named "a" "int" with column := ⟨name, "a"⟩ },
      .constraint ⟨name, some "constraint", "check", name, none, [.binary "<" (.column ⟨name, "a"⟩) .null false],
        none, none⟩,
      .index ⟨"index", none, none, [.column ⟨name, "a"⟩], none⟩] with
    query := some ⟨⟨none, .list [⟨.column ⟨name, "a"⟩, name⟩], some (.one ⟨name, "s", name, none, none, none⟩), none,
      none, none, none, none, none⟩, []⟩ }

/-- A trigger with that name. -/
def testedTrigger (name : Option String) : Statement :=
  .trigger { TriggerStatement.onEvents [.named "insert"] with name := name }

theorem testedNames_render :
    (testedTable (some "")).map .nonempty = (testedTable none).map .nonempty ∧
      (testedTrigger (some "")).map .nonempty = (testedTrigger none).map .nonempty ∧
      (testedTable none).render {} =
        .ok "CREATE TABLE t (a INT, CONSTRAINT CHECK (a < NULL), INDEX (a)) SELECT a FROM s" ∧
      (testedTable (some "")).render {} = (testedTable none).render {} ∧
      (testedTrigger (some "")).render {} = (testedTrigger none).render {} := by
  have tables : (testedTable (some "")).map .nonempty = (testedTable none).map .nonempty := rfl
  have triggers : (testedTrigger (some "")).map .nonempty = (testedTrigger none).map .nonempty := rfl
  have written : (testedTable none).render {} =
      .ok "CREATE TABLE t (a INT, CONSTRAINT CHECK (a < NULL), INDEX (a)) SELECT a FROM s" :=
    eq_ok_of_toOption (by decide +kernel)
  exact ⟨tables, triggers, written,
    (Statement.render_emptyNames_iff _ _ {} tables).mpr (Or.inr (Or.inr (by decide))),
    (Statement.render_emptyNames_iff _ _ {} triggers).mpr (Or.inr (Or.inr rfl))⟩

/-- A table with an index. -/
def indexedTable (name : Option String) : Statement :=
  .table ((TableStatement.plain (.named "t")).withDefinitions
    [.index ⟨"index", name, none, [.column (.named "a")], none⟩])

/-- An empty name of an index is written as a quoted name. -/
theorem indexedTable_emptyName :
    (indexedTable (some "")).map .nonempty = (indexedTable none).map .nonempty ∧
      (indexedTable none).render {} = .ok "CREATE TABLE t (INDEX (a))" ∧
      (indexedTable (some "")).render {} = .ok "CREATE TABLE t (INDEX \"\" (a))" ∧
      (indexedTable (some "")).render {} ≠ (indexedTable none).render {} := by
  have absent : (indexedTable none).render {} = .ok "CREATE TABLE t (INDEX (a))" :=
    eq_ok_of_toOption (by decide +kernel)
  have empty : (indexedTable (some "")).render {} = .ok "CREATE TABLE t (INDEX \"\" (a))" :=
    eq_ok_of_toOption (by decide +kernel)
  refine ⟨rfl, absent, empty, fun same => ?_⟩
  rw [absent, empty] at same
  exact absurd (Except.ok.inj same) (by decide)

end Statement

end SqlDdl
