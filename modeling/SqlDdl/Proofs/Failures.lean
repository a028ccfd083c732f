import SqlDdl.Proofs.Outcomes
import SqlDdl.Statement.Render

/-! When a statement has no rendering, and why. No configuration has a part in it. -/

namespace SqlDdl

theorem Json.isNull_iff {value : Json} : value.isNull = true ↔ value = .null := by
  cases value <;> simp [isNull]

/-- Whether a column has a field that is not `null` and has no rendering. The field that tells the kind of
the definition is no such field. -/
def ColumnDefinition.HasUnsupported (column : ColumnDefinition) (key : String) : Prop :=
  key ≠ "resource" ∧ ∃ value, (key, value) ∈ column.extra.entries ∧ value ≠ .null

/-- The reasons for which a definition has no rendering. Of several fields of a column the first one in the
order of code points is the reason. -/
inductive Definition.FailsWith : Definition → Error → Prop
  | resource (resource : String) :
      FailsWith (.unsupported resource) (.unsupported "CREATE TABLE" "resource" resource)
  | field {column : ColumnDefinition} {key : String} (present : column.HasUnsupported key)
      (first : ∀ other, column.HasUnsupported other → key ≤ other) :
      FailsWith (.column column) (.unsupported "CREATE TABLE" "column field" key)

/-- The reasons for which a statement has no rendering. Of several definitions the first one that fails is
the reason, and a table that is like another one fails for none of its definitions. -/
inductive Statement.FailsWith : Statement → Error → Prop
  | keyword (keyword : String) :
      FailsWith (.unsupported keyword) (.unsupported "CREATE" "keyword" keyword)
  | events {trigger : TriggerStatement} (none : trigger.events = []) :
      FailsWith (.trigger trigger) (.invalid "CREATE TRIGGER" "trigger must name at least one event")
  | definition {table : TableStatement} {before after : List Definition} {definition : Definition}
      {cause : Error} (alone : table.like = none)
      (body : table.definitions = some (before ++ definition :: after))
      (sound : ∀ earlier ∈ before, ∀ other, ¬earlier.FailsWith other)
      (fails : definition.FailsWith cause) : FailsWith (.table table) cause

/-- The field that is reported is the first one of those that have no rendering. -/
theorem ColumnDefinition.unsupportedField?_eq_some_iff {column : ColumnDefinition} {key : String} :
    column.unsupportedField? = some key ↔
      column.HasUnsupported key ∧ ∀ other, column.HasUnsupported other → key ≤ other := by
  have bad : ∀ entry : String × Json, (entry.1 != "resource" && !entry.2.isNull) = true ↔
      entry.1 ≠ "resource" ∧ entry.2 ≠ .null := fun entry => by
    rw [Bool.and_eq_true, bne_iff_ne, Bool.not_eq_true', ← Bool.not_eq_true, Json.isNull_iff]
  have least : ∀ {found}, column.unsupportedField? = some found →
      column.HasUnsupported found ∧ ∀ other, column.HasUnsupported other → found ≤ other := by
    intro found reported
    obtain ⟨entry, first, rfl⟩ := Option.map_eq_some_iff.mp reported
    obtain ⟨isBad, before, after, split, sound⟩ := List.find?_eq_some_iff_append.mp first
    rw [bad] at isBad
    refine ⟨⟨isBad.1, entry.2, by simp [split], isBad.2⟩, ?_⟩
    rintro other ⟨named, value, member, filled⟩
    have sorted := column.extra.sorted
    rw [Json.KeysIncrease, split] at sorted
    rw [split] at member
    rcases List.mem_append.mp member with inBefore | inRest
    · have clean := sound _ inBefore
      rw [Bool.not_eq_true', ← Bool.not_eq_true, bad] at clean
      exact absurd ⟨named, filled⟩ clean
    · rcases List.mem_cons.mp inRest with same | inAfter
      · exact same ▸ String.le_refl entry.1
      · have below := (List.pairwise_cons.mp (List.pairwise_append.mp sorted).2.1).1 _ inAfter
        exact Std.le_of_lt below
  refine ⟨least, ?_⟩
  rintro ⟨⟨named, value, member, filled⟩, first⟩
  have some : column.unsupportedField? ≠ none := by
    intro none
    have clean := List.find?_eq_none.mp (Option.map_eq_none_iff.mp none) _ member
    exact clean ((bad (key, value)).mpr ⟨named, filled⟩)
  obtain ⟨found, reported⟩ := Option.ne_none_iff_exists'.mp some
  obtain ⟨present, smallest⟩ := least reported
  rw [reported, String.le_antisymm (smallest key ⟨named, value, member, filled⟩) (first found present)]

/-- A definition has no rendering exactly for the reasons given. -/
theorem Definition.tokens_eq_error_iff {definition : Definition} {config : Config} {cause : Error} :
    definition.tokens config = .error cause ↔ definition.FailsWith cause := by
  cases definition with
  | column value =>
    rw [tokens, ColumnDefinition.tokens]
    cases reported : value.unsupportedField? with
    | none =>
      refine iff_of_false (fun same => nomatch same) ?_
      rintro (_ | ⟨present, first⟩)
      rw [ColumnDefinition.unsupportedField?_eq_some_iff.mpr ⟨present, first⟩] at reported
      cases reported
    | some key =>
      constructor
      · intro same
        cases same
        obtain ⟨present, first⟩ := ColumnDefinition.unsupportedField?_eq_some_iff.mp reported
        exact .field present first
      · rintro (_ | ⟨present, first⟩)
        rw [ColumnDefinition.unsupportedField?_eq_some_iff.mpr ⟨present, first⟩] at reported
        cases reported
        rfl
  | index value | constraint value =>
    exact iff_of_false (fun same => nomatch same) fun fails => nomatch fails
  | unsupported resource =>
    constructor
    · intro same
      cases same
      exact .resource resource
    · rintro ⟨⟩
      rfl

theorem Definition.tokens_eq_ok_iff {definition : Definition} {config : Config} :
    (∃ tokens, definition.tokens config = .ok tokens) ↔ ∀ cause, ¬definition.FailsWith cause := by
  have fails : ∀ cause, definition.FailsWith cause ↔ definition.tokens config = .error cause :=
    fun _ => tokens_eq_error_iff.symm
  simp only [fails]
  cases definition.tokens config with
  | error cause => exact iff_of_false (fun ⟨_, same⟩ => nomatch same) fun sound => sound cause rfl
  | ok tokens => exact iff_of_true ⟨tokens, rfl⟩ fun _ same => nomatch same

namespace TableStatement

variable {table : TableStatement} {config : Config} {cause : Error}

theorem renderBody_eq_error_iff {definitions : List Definition} :
    renderBody config definitions = .error cause ↔
      ∃ before definition after, definitions = before ++ definition :: after ∧
        (∀ earlier ∈ before, ∀ other, ¬earlier.FailsWith other) ∧ definition.FailsWith cause := by
  have fails : ∀ definition : Definition,
      (do return (← definition.tokens config).join : Except Error String) = .error cause ↔
        definition.FailsWith cause := fun definition => by
    rw [← Definition.tokens_eq_error_iff]
    exact bind_total_eq_error fun tokens => ⟨tokens.join, rfl⟩
  have succeeds : ∀ definition : Definition,
      (∃ text, (do return (← definition.tokens config).join : Except Error String) = .ok text) ↔
        ∀ other, ¬definition.FailsWith other := fun definition => by
    rw [← Definition.tokens_eq_ok_iff]
    simp only [bind_eq_ok]
    exact ⟨fun ⟨_, tokens, found, _⟩ => ⟨tokens, found⟩, fun ⟨tokens, found⟩ => ⟨_, tokens, found, rfl⟩⟩
  have body : renderBody config definitions = .error cause ↔
      definitions.mapM (fun definition => do return (← definition.tokens config).join) =
        .error cause :=
    bind_total_eq_error fun rendered => ⟨parenthesized (commaList rendered), rfl⟩
  rw [body, mapM_eq_error_iff]
  simp only [fails, succeeds]

/-- A table that is like another one always has a rendering. -/
theorem render_like (table : TableStatement) {like : LikeClause} (present : table.like = some like) :
    table.render config =
      .ok (table.headTokens config ++ .word like.keyword ++ .text (like.table.render config)).join := by
  rw [render, tokens, present]
  rfl

theorem render_eq_error_iff :
    table.render config = .error cause ↔ (Statement.table table).FailsWith cause := by
  cases like : table.like with
  | some source =>
    rw [table.render_like like]
    refine iff_of_false (fun same => nomatch same) ?_
    rintro (_ | _ | ⟨alone, _, _, _⟩)
    rw [like] at alone
    cases alone
  | none =>
    have failing : table.render config = .error cause ↔ table.bodyTokens config = .error cause := by
      rw [render, map_eq_error, tokens, like]
      exact bind_total_eq_error fun body => ⟨_, rfl⟩
    rw [failing, bodyTokens]
    cases body : table.definitions with
    | none =>
      refine iff_of_false (fun same => nomatch same) ?_
      rintro (_ | _ | ⟨_, filled, _, _⟩)
      rw [body] at filled
      cases filled
    | some definitions =>
      rw [map_eq_error, renderBody_eq_error_iff]
      constructor
      · rintro ⟨before, definition, after, rfl, sound, fails⟩
        exact .definition like body sound fails
      · rintro (_ | _ | ⟨_, filled, sound, fails⟩)
        rw [body] at filled
        exact ⟨_, _, _, Option.some.inj filled, sound, fails⟩

end TableStatement

theorem TriggerStatement.render_eq_error_iff {trigger : TriggerStatement} {config : Config}
    {cause : Error} :
    trigger.render config = .error cause ↔ (Statement.trigger trigger).FailsWith cause := by
  rw [render]
  split
  · rename_i none
    constructor
    · intro same
      cases same
      exact .events (List.isEmpty_iff.mp none)
    · rintro (_ | _ | _)
      rfl
  · rename_i some
    refine iff_of_false (fun same => nomatch same) ?_
    rintro (_ | none | _)
    exact some (List.isEmpty_iff.mpr none)

theorem Statement.render_eq_error_iff {statement : Statement} {config : Config} {cause : Error} :
    statement.render config = .error cause ↔ statement.FailsWith cause := by
  cases statement with
  | table value => exact value.render_eq_error_iff
  | trigger value => exact value.render_eq_error_iff
  | unsupported keyword =>
    constructor
    · intro same
      cases same
      exact .keyword keyword
    · rintro ⟨⟩
      rfl

/-- A statement has no rendering exactly for the reasons given, and so no configuration has a part in it. A
table that is like another one always has a rendering, in which its body, options and query do not
appear. -/
theorem Statement.render_failures :
    (∀ (statement : Statement) (config : Config) (cause : Error),
      statement.render config = .error cause ↔ statement.FailsWith cause) ∧
    (∀ (statement : Statement) (config other : Config) (cause : Error),
      statement.render config = .error cause ↔ statement.render other = .error cause) ∧
    ∀ (table : TableStatement) (config : Config), table.like ≠ none →
      (∃ sql, (Statement.table table).render config = .ok sql) ∧
      ∀ definitions options ignoreReplace asMarker query,
        (Statement.table { table with definitions, options, ignoreReplace, asMarker, query }).render config =
          (Statement.table table).render config := by
  refine ⟨fun _ _ _ => render_eq_error_iff, fun _ _ _ _ => ?_, fun table config present => ?_⟩
  · rw [render_eq_error_iff, render_eq_error_iff]
  · obtain ⟨like, found⟩ := Option.ne_none_iff_exists'.mp present
    refine ⟨⟨_, table.render_like found⟩, fun definitions options ignoreReplace asMarker query => ?_⟩
    exact (TableStatement.render_like { table with definitions, options, ignoreReplace, asMarker, query }
      found).trans (table.render_like found).symm

/-- A table with two definitions that have no rendering, the first of them for two fields. -/
def faultyTable : TableStatement :=
  (TableStatement.plain (.named "t")).withDefinitions
    [.column (.named "a" "int"),
      .column { ColumnDefinition.named "b" "int" with
        extra := .ofEntries [("virtual", .bool true), ("resource", .string "column"), ("hidden", .string ""),
          ("check_name", .null)] },
      .unsupported "view"]

theorem faultyTable_failures :
    (Statement.table faultyTable).FailsWith (.unsupported "CREATE TABLE" "column field" "hidden") ∧
      (faultyTable.likeTable (.named "s")).like ≠ none ∧
      ∃ sql, (Statement.table (faultyTable.likeTable (.named "s"))).render ⟨.ansi, .always⟩ = .ok sql := by
  have rendered : (Statement.table faultyTable).render ⟨.ansi, .always⟩ =
      .error (.unsupported "CREATE TABLE" "column field" "hidden") := rfl
  have like : (faultyTable.likeTable (.named "s")).like ≠ none := fun same => nomatch same
  exact ⟨(Statement.render_failures.1 _ _ _).mp rendered, like,
    (Statement.render_failures.2.2 _ ⟨.ansi, .always⟩ like).1⟩

end SqlDdl
