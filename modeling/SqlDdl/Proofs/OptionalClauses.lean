import SqlDdl.Proofs.Outcomes
import SqlDdl.Proofs.TokenLists
import SqlDdl.Statement.Render

/-! The clauses of a node that may be absent. The tokens of each are given by its own value, and the tokens around them
are the same for all of its values, so that without the clause just its tokens are missing. -/

namespace SqlDdl

section Texts

/-- Whether a text is another one without a part of it. With the part goes one space beside it, unless the part is empty
or all there is. -/
inductive Cut : (part text rest : String) → Prop where
  | absent (text : String) : Cut "" text text
  | whole (part : String) : Cut part part ""
  | first (part rest : String) : Cut part (part ++ " " ++ rest) rest
  | later (part before rest : String) : Cut part (before ++ " " ++ part ++ rest) (before ++ rest)

/-- Texts that stand between others are cut out together with one space. -/
theorem cut_intercalate (before own after : List String) :
    Cut (" ".intercalate own) (" ".intercalate (before ++ own ++ after)) (" ".intercalate (before ++ after)) := by
  rcases eq_or_ne own [] with rfl | present
  · rw [List.append_nil]
    exact .absent _
  rcases eq_or_ne before [] with rfl | earlier
  · rw [List.nil_append, List.nil_append]
    rcases eq_or_ne after [] with rfl | later
    · rw [List.append_nil]
      exact .whole _
    · rw [String.intercalate_append_of_ne_nil present later]
      exact .first _ _
  · rcases eq_or_ne after [] with rfl | later
    · rw [List.append_nil, List.append_nil, String.intercalate_append_of_ne_nil earlier present]
      have cut := Cut.later (" ".intercalate own) (" ".intercalate before) ""
      rwa [String.append_empty, String.append_empty] at cut
    · have rest : own ++ after ≠ [] := List.append_ne_nil_of_left_ne_nil present after
      rw [List.append_assoc, String.intercalate_append_of_ne_nil earlier rest,
        String.intercalate_append_of_ne_nil present later, String.intercalate_append_of_ne_nil earlier later]
      have cut := Cut.later (" ".intercalate own) (" ".intercalate before) (" " ++ " ".intercalate after)
      simpa only [String.append_assoc] using cut

end Texts

section Parts

variable {α : Type} {config : Config}

theorem Tokens.append_assoc (first second third : Tokens) :
    first ++ second ++ third = first ++ (second ++ third) :=
  congrArg Tokens.mk (List.append_assoc first.entries second.entries third.entries)

theorem Tokens.append_empty (tokens : Tokens) : tokens ++ .empty = tokens :=
  congrArg Tokens.mk (List.append_nil tokens.entries)

theorem Tokens.empty_append (tokens : Tokens) : .empty ++ tokens = tokens :=
  congrArg Tokens.mk (List.nil_append tokens.entries)

/-- The tokens of all parts in their order, unless one of them has no rendering. -/
def Tokens.ofParts : List (Except Error Tokens) → Except Error Tokens
  | [] => .ok .empty
  | part :: parts => do return (← part) ++ (← ofParts parts)

theorem Tokens.ofParts_eq_ok_iff {front back : List (Except Error Tokens)} {part : Except Error Tokens}
    {tokens : Tokens} : ofParts (front ++ part :: back) = .ok tokens ↔
      ∃ before own after, ofParts front = .ok before ∧ part = .ok own ∧ ofParts back = .ok after ∧
        before ++ (own ++ after) = tokens := by
  induction front generalizing tokens with
  | nil =>
    rw [List.nil_append, ofParts, ofParts, bind_eq_ok]
    constructor
    · rintro ⟨own, found, written⟩
      obtain ⟨after, later, same⟩ := bind_eq_ok.mp written
      exact ⟨.empty, own, after, rfl, found, later, (empty_append _).trans (Except.ok.inj same)⟩
    · rintro ⟨_, own, after, ⟨⟩, found, later, same⟩
      rw [empty_append] at same
      exact ⟨own, found, bind_eq_ok.mpr ⟨after, later, congrArg Except.ok same⟩⟩
  | cons first front ih =>
    rw [List.cons_append, ofParts, ofParts, bind_eq_ok]
    constructor
    · rintro ⟨start, found, written⟩
      obtain ⟨rest, others, same⟩ := bind_eq_ok.mp written
      obtain ⟨before, own, after, earlier, part, later, rfl⟩ := ih.mp others
      refine ⟨start ++ before, own, after, ?_, part, later, ?_⟩
      · exact bind_eq_ok.mpr ⟨start, found, bind_eq_ok.mpr ⟨before, earlier, rfl⟩⟩
      · rw [append_assoc]
        exact Except.ok.inj same
    · rintro ⟨_, own, after, earlier, part, later, rfl⟩
      obtain ⟨start, found, written⟩ := bind_eq_ok.mp earlier
      obtain ⟨before, others, same⟩ := bind_eq_ok.mp written
      cases same
      refine ⟨start, found, bind_eq_ok.mpr ⟨before ++ (own ++ after), ?_, ?_⟩⟩
      · exact ih.mpr ⟨before, own, after, others, part, later, rfl⟩
      · rw [append_assoc]
        rfl

/-- A field of a node that may be absent, and what is written for its value. -/
structure OptField (α : Type) where
  {Value : Type}
  get : α → Option Value
  set : α → Option Value → α
  tokens : Config → Option Value → Except Error Tokens
  get_set : ∀ node value, get (set node value) = value := by intros; rfl
  set_get : ∀ node, set node (get node) = node := by intros; rfl
  /-- Nothing is written where the field is absent. -/
  absent : ∀ config, (tokens config none).map Tokens.toList = .ok [] := by intros; rfl

/-- A part of a node, of which the tokens are put together. -/
abbrev Part (α : Type) := Config → α → Except Error Tokens

namespace OptField

/-- The part that is written for a field. -/
def part (field : OptField α) : Part α :=
  fun config node => field.tokens config (field.get node)

/-- Whether a field is one part among others, none of which depends on it. -/
def IsPartOf (field : OptField α) (parts : List (Part α)) : Prop :=
  ∃ front back, parts = front ++ field.part :: back ∧ ∀ config node value,
    front.map (· config (field.set node value)) = front.map (· config node) ∧
      back.map (· config (field.set node value)) = back.map (· config node)

/-- Whether nothing but its tokens is missing where a field of a node is absent. The tokens of the field are given by
its value; `written` is what has the tokens of the node. -/
def Vanishes (field : OptField α) (config : Config) (written : α → Except Error Tokens) (node : α) : Prop :=
  ∀ tokens, written node = .ok tokens → ∃ own rest before after,
    field.tokens config (field.get node) = .ok own ∧ written (field.set node none) = .ok rest ∧
      tokens.toList = before ++ own.toList ++ after ∧ rest.toList = before ++ after ∧
      Cut own.join tokens.join rest.join

variable {field : OptField α} {parts : List (Part α)} {node : α} {tokens : Tokens}

/-- Around a field are the same tokens for all of its values. -/
theorem IsPartOf.exists_around (isPart : field.IsPartOf parts)
    (written : Tokens.ofParts (parts.map (· config node)) = .ok tokens) :
    ∃ before after : Tokens, ∀ value own, field.tokens config value = .ok own →
      Tokens.ofParts (parts.map (· config (field.set node value))) = .ok (before ++ (own ++ after)) := by
  obtain ⟨front, back, rfl, others⟩ := isPart
  rw [List.map_append, List.map_cons] at written
  obtain ⟨before, _, after, earlier, _, later, _⟩ := Tokens.ofParts_eq_ok_iff.mp written
  refine ⟨before, after, fun value own found => ?_⟩
  obtain ⟨sameFront, sameBack⟩ := others config node value
  rw [List.map_append, List.map_cons, sameFront, sameBack, part, field.get_set]
  exact Tokens.ofParts_eq_ok_iff.mpr ⟨before, own, after, earlier, found, later, rfl⟩

/-- What is written for a field of a node that is written. -/
theorem IsPartOf.exists_own (isPart : field.IsPartOf parts)
    (written : Tokens.ofParts (parts.map (· config node)) = .ok tokens) :
    ∃ own, field.tokens config (field.get node) = .ok own := by
  obtain ⟨front, back, rfl, _⟩ := isPart
  rw [List.map_append, List.map_cons] at written
  obtain ⟨_, own, _, _, found, _, _⟩ := Tokens.ofParts_eq_ok_iff.mp written
  exact ⟨own, found⟩

theorem IsPartOf.vanishes (isPart : field.IsPartOf parts) {written : α → Except Error Tokens}
    (ofParts : ∀ value, written (field.set node value) =
      Tokens.ofParts (parts.map (· config (field.set node value)))) :
    field.Vanishes config written node := by
  have ofNode := ofParts (field.get node)
  rw [field.set_get] at ofNode
  intro tokens found
  rw [ofNode] at found
  obtain ⟨own, ownFound⟩ := isPart.exists_own found
  obtain ⟨before, after, around⟩ := isPart.exists_around found
  obtain ⟨none, noneFound, empty⟩ := map_eq_ok.mp (field.absent config)
  have whole := around _ own ownFound
  rw [field.set_get, found] at whole
  have lists : tokens.toList = before.toList ++ own.toList ++ after.toList := by
    rw [Except.ok.inj whole, Tokens.toList_append, Tokens.toList_append, List.append_assoc]
  have rest : (before ++ (none ++ after)).toList = before.toList ++ after.toList := by
    rw [Tokens.toList_append, Tokens.toList_append, empty, List.nil_append]
  refine ⟨own, before ++ (none ++ after), before.toList, after.toList, ownFound, ?_, lists, rest, ?_⟩
  · rw [ofParts]
    exact around _ none noneFound
  · rw [Tokens.join_eq, Tokens.join_eq, Tokens.join_eq, lists, rest]
    exact cut_intercalate _ _ _

end OptField

end Parts

namespace TableStatement

/-- The clauses of a table that may be absent. -/
inductive OptClause where
  | temporary | ifNotExists | definitions | options | ignoreReplace | asMarker | query

/-- The field of a clause. -/
def OptClause.field : OptClause → OptField TableStatement
  | temporary => {
      get := (·.temporary)
      set := fun statement value => { statement with temporary := value }
      tokens := fun _ value => .ok (.marker "TEMPORARY" value) }
  | ifNotExists => {
      get := (·.ifNotExists)
      set := fun statement value => { statement with ifNotExists := value }
      tokens := fun _ value => .ok (.marker "IF NOT EXISTS" value) }
  | definitions => {
      get := (·.definitions)
      set := fun statement value => { statement with definitions := value }
      tokens := fun config value =>
        value.elim (.ok .empty) fun definitions => (renderBody config definitions).map .text }
  | options => {
      get := (·.options)
      set := fun statement value => { statement with options := value }
      tokens := fun config value =>
        .ok (Tokens.empty.extend ((value.getD []).map (TableOption.render config))) }
  | ignoreReplace => {
      get := (·.ignoreReplace)
      set := fun statement value => { statement with ignoreReplace := value }
      tokens := fun _ value => .ok (.marker "IGNORE" value) }
  | asMarker => {
      get := (·.asMarker)
      set := fun statement value => { statement with asMarker := value }
      tokens := fun _ value => .ok (.marker "AS" value) }
  | query => {
      get := (·.query)
      set := fun statement value => { statement with query := value }
      tokens := fun config value => .ok (.part value fun query => .text (query.render config)) }

/-- The parts of a table that is not like another one. -/
def parts : List (Part TableStatement) := [
  fun _ statement => .ok (.word statement.create),
  (OptClause.field .temporary).part,
  fun _ statement => .ok (.word statement.keyword),
  (OptClause.field .ifNotExists).part,
  fun config statement => .ok (.text (statement.table.render config)),
  (OptClause.field .definitions).part,
  (OptClause.field .options).part,
  (OptClause.field .ignoreReplace).part,
  (OptClause.field .asMarker).part,
  (OptClause.field .query).part]

/-- No clause depends on another one. -/
theorem OptClause.isPartOf (clause : OptClause) : clause.field.IsPartOf parts := by
  cases clause with
  | temporary => exact ⟨parts.take 1, parts.drop 2, rfl, fun _ _ _ => ⟨rfl, rfl⟩⟩
  | ifNotExists => exact ⟨parts.take 3, parts.drop 4, rfl, fun _ _ _ => ⟨rfl, rfl⟩⟩
  | definitions => exact ⟨parts.take 5, parts.drop 6, rfl, fun _ _ _ => ⟨rfl, rfl⟩⟩
  | options => exact ⟨parts.take 6, parts.drop 7, rfl, fun _ _ _ => ⟨rfl, rfl⟩⟩
  | ignoreReplace => exact ⟨parts.take 7, parts.drop 8, rfl, fun _ _ _ => ⟨rfl, rfl⟩⟩
  | asMarker => exact ⟨parts.take 8, parts.drop 9, rfl, fun _ _ _ => ⟨rfl, rfl⟩⟩
  | query => exact ⟨parts.take 9, parts.drop 10, rfl, fun _ _ _ => ⟨rfl, rfl⟩⟩

theorem tokens_eq_ofParts {config : Config} {statement : TableStatement} (alone : statement.like = none) :
    statement.tokens config = Tokens.ofParts (parts.map (· config statement)) := by
  have body : statement.bodyTokens config = (OptClause.field .definitions).part config statement := by
    rw [bodyTokens]
    cases found : statement.definitions with
    | none => simp only [OptField.part, OptClause.field, found, Option.elim_none]
    | some definitions => simp only [OptField.part, OptClause.field, found, Option.elim_some]
  simp only [tokens, alone, body, parts, List.map_cons, List.map_nil]
  cases (OptClause.field .definitions).part config statement with
  | error => rfl
  | ok own =>
    show Except.ok (statement.headTokens config ++ own ++ statement.tailTokens config) = _
    rw [← Tokens.append_empty (_ ++ statement.tailTokens config), headTokens, tailTokens]
    simp only [Tokens.append_assoc]
    rfl

theorem OptClause.like_set (clause : OptClause) (statement : TableStatement) (value : Option clause.field.Value) :
    (clause.field.set statement value).like = statement.like := by
  cases clause <;> rfl

end TableStatement

namespace TriggerStatement

/-- The clauses of a trigger that may be absent. -/
inductive OptClause where
  | isConstraint | name | location | source | deferrable | forEach | condition

/-- The field of a clause. -/
def OptClause.field : OptClause → OptField TriggerStatement
  | isConstraint => {
      get := (·.isConstraint)
      set := fun statement value => { statement with isConstraint := value }
      tokens := fun _ value => .ok (.marker "CONSTRAINT" value) }
  | name => {
      get := (·.name)
      set := fun statement value => { statement with name := value }
      tokens := fun config value => .ok (.opt ((nonempty? value).map config.quote)) }
  | location => {
      get := (·.location)
      set := fun statement value => { statement with location := value }
      tokens := fun _ value => .ok (.optWord value) }
  | source => {
      get := (·.source)
      set := fun statement value => { statement with source := value }
      tokens := fun config value =>
        .ok (.part value fun table => .text "FROM" ++ .text (table.render config)) }
  | deferrable => {
      get := (·.deferrable)
      set := fun statement value => { statement with deferrable := value }
      tokens := fun _ value => .ok (.part value KeywordArgs.words) }
  | forEach => {
      get := (·.forEach)
      set := fun statement value => { statement with forEach := value }
      tokens := fun _ value => .ok (.part value KeywordArgs.words) }
  | condition => {
      get := (·.condition)
      set := fun statement value => { statement with condition := value }
      tokens := fun config value => .ok (.part value (TriggerCondition.tokens config)) }

/-- The parts of a trigger. There must be some event. -/
def parts : List (Part TriggerStatement) := [
  fun _ statement => .ok (.word statement.create),
  (OptClause.field .isConstraint).part,
  fun _ statement => .ok (.word statement.keyword),
  (OptClause.field .name).part,
  (OptClause.field .location).part,
  fun config statement =>
    if statement.events.isEmpty then .error (.invalid "CREATE TRIGGER" "trigger must name at least one event")
    else .ok (.text (statement.renderEvents config)),
  fun _ _ => .ok (.text "ON"),
  fun config statement => .ok (.text (statement.table.render config)),
  (OptClause.field .source).part,
  (OptClause.field .deferrable).part,
  (OptClause.field .forEach).part,
  (OptClause.field .condition).part,
  fun config statement => .ok (statement.action.tokens config)]

/-- No clause depends on another one. -/
theorem OptClause.isPartOf (clause : OptClause) : clause.field.IsPartOf parts := by
  cases clause with
  | isConstraint => exact ⟨parts.take 1, parts.drop 2, rfl, fun _ _ _ => ⟨rfl, rfl⟩⟩
  | name => exact ⟨parts.take 3, parts.drop 4, rfl, fun _ _ _ => ⟨rfl, rfl⟩⟩
  | location => exact ⟨parts.take 4, parts.drop 5, rfl, fun _ _ _ => ⟨rfl, rfl⟩⟩
  | source => exact ⟨parts.take 8, parts.drop 9, rfl, fun _ _ _ => ⟨rfl, rfl⟩⟩
  | deferrable => exact ⟨parts.take 9, parts.drop 10, rfl, fun _ _ _ => ⟨rfl, rfl⟩⟩
  | forEach => exact ⟨parts.take 10, parts.drop 11, rfl, fun _ _ _ => ⟨rfl, rfl⟩⟩
  | condition => exact ⟨parts.take 11, parts.drop 12, rfl, fun _ _ _ => ⟨rfl, rfl⟩⟩

theorem written_eq_ofParts (config : Config) (statement : TriggerStatement) :
    ((statement.render config).map fun _ => statement.tokens config) =
      Tokens.ofParts (parts.map (· config statement)) := by
  rw [render]
  simp only [parts, List.map_cons, List.map_nil]
  split
  · rfl
  · show Except.ok (statement.tokens config) = _
    rw [← Tokens.append_empty (statement.tokens config), tokens]
    simp only [Tokens.append_assoc]
    rfl

end TriggerStatement

namespace Select

/-- The clauses of a select that may be absent. -/
inductive OptClause where
  | distinct | source | condition | groupBy | having | orderBy | limit

/-- The field of a clause. -/
def OptClause.field : OptClause → OptField Select
  | distinct => {
      get := (·.distinct)
      set := fun select value => { select with distinct := value }
      tokens := fun _ value => .ok (.marker "DISTINCT" value) }
  | source => {
      get := (·.source)
      set := fun select value => { select with source := value }
      tokens := fun config value => .ok (.part value fun tables => clause "FROM" (tables.render config)) }
  | condition => {
      get := (·.condition)
      set := fun select value => { select with condition := value }
      tokens := fun config value => .ok (.part value fun expr => clause "WHERE" (expr.render config)) }
  | groupBy => {
      get := (·.groupBy)
      set := fun select value => { select with groupBy := value }
      tokens := fun config value => .ok (.part (value.filter (!·.isEmpty)) fun items =>
        clause "GROUP BY" (Expr.renderList config items)) }
  | having => {
      get := (·.having)
      set := fun select value => { select with having := value }
      tokens := fun config value => .ok (.part value fun expr => clause "HAVING" (expr.render config)) }
  | orderBy => {
      get := (·.orderBy)
      set := fun select value => { select with orderBy := value }
      tokens := fun config value => .ok (.part (value.filter (!·.isEmpty)) fun items =>
        clause "ORDER BY" (commaList (items.map (OrderItem.render config)))) }
  | limit => {
      get := (·.limit)
      set := fun select value => { select with limit := value }
      tokens := fun config value => .ok (.opt (value.bind (Limit.render? config))) }

/-- The parts of a select. -/
def parts : List (Part Select) := [
  fun _ _ => .ok (.text "SELECT"),
  (OptClause.field .distinct).part,
  fun config select => .ok (.text (select.columns.render config)),
  (OptClause.field .source).part,
  (OptClause.field .condition).part,
  (OptClause.field .groupBy).part,
  (OptClause.field .having).part,
  (OptClause.field .orderBy).part,
  (OptClause.field .limit).part]

/-- No clause depends on another one. -/
theorem OptClause.isPartOf (clause : OptClause) : clause.field.IsPartOf parts := by
  cases clause with
  | distinct => exact ⟨parts.take 1, parts.drop 2, rfl, fun _ _ _ => ⟨rfl, rfl⟩⟩
  | source => exact ⟨parts.take 3, parts.drop 4, rfl, fun _ _ _ => ⟨rfl, rfl⟩⟩
  | condition => exact ⟨parts.take 4, parts.drop 5, rfl, fun _ _ _ => ⟨rfl, rfl⟩⟩
  | groupBy => exact ⟨parts.take 5, parts.drop 6, rfl, fun _ _ _ => ⟨rfl, rfl⟩⟩
  | having => exact ⟨parts.take 6, parts.drop 7, rfl, fun _ _ _ => ⟨rfl, rfl⟩⟩
  | orderBy => exact ⟨parts.take 7, parts.drop 8, rfl, fun _ _ _ => ⟨rfl, rfl⟩⟩
  | limit => exact ⟨parts.take 8, parts.drop 9, rfl, fun _ _ _ => ⟨rfl, rfl⟩⟩

theorem tokens_eq_ofParts (config : Config) (select : Select) :
    .ok (select.tokens config) = Tokens.ofParts (parts.map (· config select)) := by
  rw [← Tokens.append_empty (select.tokens config), tokens]
  simp only [Tokens.append_assoc]
  rfl

end Select

namespace ColumnDefinition

/-- The clauses of a column that may be absent. -/
inductive OptClause where
  | nullable | default | autoIncrement | unique | primaryKey | collate | check | generated
  | characterSet | columnFormat | storage | comment | reference

/-- The field of a clause. -/
def OptClause.field : OptClause → OptField ColumnDefinition
  | nullable => {
      get := (·.nullable)
      set := fun column value => { column with nullable := value }
      tokens := fun _ value => .ok (.optWord (value.map (·.value))) }
  | default => {
      get := (·.default)
      set := fun column value => { column with default := value }
      tokens := fun config value =>
        .ok (.part value fun value => .word value.keyword ++ .text (value.value.render config)) }
  | autoIncrement => {
      get := (·.autoIncrement)
      set := fun column value => { column with autoIncrement := value }
      tokens := fun _ value => .ok (.optWord value) }
  | unique => {
      get := (·.unique)
      set := fun column value => { column with unique := value }
      tokens := fun _ value => .ok (.optWord value) }
  | primaryKey => {
      get := (·.primaryKey)
      set := fun column value => { column with primaryKey := value }
      tokens := fun _ value => .ok (.optWord value) }
  | collate => {
      get := (·.collate)
      set := fun column value => { column with collate := value }
      tokens := fun _ value =>
        .ok (.part value fun collate => .word collate.keyword ++ .text collate.value) }
  | check => {
      get := (·.check)
      set := fun column value => { column with check := value }
      tokens := fun config value => .ok (.part value (ConstraintDefinition.tokens config)) }
  | generated => {
      get := (·.generated)
      set := fun column value => { column with generated := value }
      tokens := fun config value => .ok (.part value (GeneratedColumn.tokens config)) }
  | characterSet => {
      get := (·.characterSet)
      set := fun column value => { column with characterSet := value }
      tokens := fun _ value =>
        .ok (.part value fun set => .word set.keyword ++ .opt set.symbol ++ .text set.value) }
  | columnFormat => {
      get := (·.columnFormat)
      set := fun column value => { column with columnFormat := value }
      tokens := fun _ value => .ok (.part value KeywordValue.words) }
  | storage => {
      get := (·.storage)
      set := fun column value => { column with storage := value }
      tokens := fun _ value => .ok (.part value KeywordValue.words) }
  | comment => {
      get := (·.comment)
      set := fun column value => { column with comment := value }
      tokens := fun config value => .ok (.part value (ExprSetting.tokens config)) }
  | reference => {
      get := (·.reference)
      set := fun column value => { column with reference := value }
      tokens := fun config value => .ok (.part value fun reference => .text (reference.render config)) }

/-- The parts of a column. Every field must have a rendering. -/
def parts : List (Part ColumnDefinition) := [
  fun _ column => column.unsupportedField?.elim (.ok .empty) fun field =>
    .error (.unsupported "CREATE TABLE" "column field" field),
  fun config column => .ok (.text (column.column.render config)),
  fun _ column => .ok (.text column.dataType.render),
  (OptClause.field .nullable).part,
  (OptClause.field .default).part,
  (OptClause.field .autoIncrement).part,
  (OptClause.field .unique).part,
  (OptClause.field .primaryKey).part,
  (OptClause.field .collate).part,
  (OptClause.field .check).part,
  (OptClause.field .generated).part,
  (OptClause.field .characterSet).part,
  (OptClause.field .columnFormat).part,
  (OptClause.field .storage).part,
  (OptClause.field .comment).part,
  (OptClause.field .reference).part]

/-- No clause depends on another one. -/
theorem OptClause.isPartOf (clause : OptClause) : clause.field.IsPartOf parts := by
  cases clause with
  | nullable => exact ⟨parts.take 3, parts.drop 4, rfl, fun _ _ _ => ⟨rfl, rfl⟩⟩
  | default => exact ⟨parts.take 4, parts.drop 5, rfl, fun _ _ _ => ⟨rfl, rfl⟩⟩
  | autoIncrement => exact ⟨parts.take 5, parts.drop 6, rfl, fun _ _ _ => ⟨rfl, rfl⟩⟩
  | unique => exact ⟨parts.take 6, parts.drop 7, rfl, fun _ _ _ => ⟨rfl, rfl⟩⟩
  | primaryKey => exact ⟨parts.take 7, parts.drop 8, rfl, fun _ _ _ => ⟨rfl, rfl⟩⟩
  | collate => exact ⟨parts.take 8, parts.drop 9, rfl, fun _ _ _ => ⟨rfl, rfl⟩⟩
  | check => exact ⟨parts.take 9, parts.drop 10, rfl, fun _ _ _ => ⟨rfl, rfl⟩⟩
  | generated => exact ⟨parts.take 10, parts.drop 11, rfl, fun _ _ _ => ⟨rfl, rfl⟩⟩
  | characterSet => exact ⟨parts.take 11, parts.drop 12, rfl, fun _ _ _ => ⟨rfl, rfl⟩⟩
  | columnFormat => exact ⟨parts.take 12, parts.drop 13, rfl, fun _ _ _ => ⟨rfl, rfl⟩⟩
  | storage => exact ⟨parts.take 13, parts.drop 14, rfl, fun _ _ _ => ⟨rfl, rfl⟩⟩
  | comment => exact ⟨parts.take 14, parts.drop 15, rfl, fun _ _ _ => ⟨rfl, rfl⟩⟩
  | reference => exact ⟨parts.take 15, parts.drop 16, rfl, fun _ _ _ => ⟨rfl, rfl⟩⟩

theorem tokens_eq_ofParts (config : Config) (column : ColumnDefinition) :
    column.tokens config = Tokens.ofParts (parts.map (· config column)) := by
  rw [tokens]
  simp only [parts, List.map_cons, List.map_nil]
  cases column.unsupportedField? with
  | some field => rfl
  | none =>
    show Except.ok (column.fieldTokens config) = _
    rw [← Tokens.append_empty (column.fieldTokens config), ← Tokens.empty_append (column.fieldTokens config ++ _),
      fieldTokens]
    simp only [Tokens.append_assoc]
    rfl

end ColumnDefinition

/-- What is missing from the SQL of a node without one of its clauses are the tokens of that clause. They are given by
its value; the other tokens stay, in their order, whatever the other clauses are, and of the spaces at most one beside
the clause is gone. A table must not be like another one, since then most of its clauses are not written. -/
theorem optClauses_vanish (config : Config) :
    (∀ (clause : TableStatement.OptClause) (statement : TableStatement), statement.like = none →
      clause.field.Vanishes config (TableStatement.tokens config) statement) ∧
    (∀ (clause : TriggerStatement.OptClause) (statement : TriggerStatement), clause.field.Vanishes config
      (fun statement => (statement.render config).map fun _ => statement.tokens config) statement) ∧
    (∀ (clause : Select.OptClause) (select : Select),
      clause.field.Vanishes config (fun select => .ok (select.tokens config)) select) ∧
    ∀ (clause : ColumnDefinition.OptClause) (column : ColumnDefinition),
      clause.field.Vanishes config (ColumnDefinition.tokens config) column := by
  refine ⟨fun clause statement alone => ?_, fun clause statement => ?_, fun clause select => ?_,
    fun clause column => ?_⟩
  · exact clause.isPartOf.vanishes fun value =>
      TableStatement.tokens_eq_ofParts ((clause.like_set statement value).trans alone)
  · exact clause.isPartOf.vanishes fun value => TriggerStatement.written_eq_ofParts config _
  · exact clause.isPartOf.vanishes fun value => Select.tokens_eq_ofParts config _
  · exact clause.isPartOf.vanishes fun value => ColumnDefinition.tokens_eq_ofParts config _

/-- A table with a body and a query. -/
def coveredTable : TableStatement :=
  { TableStatement.plain (.named "t") with
    ifNotExists := some (.flag true)
    definitions := some [.column (.named "a, b" "int")]
    query := some ⟨⟨none, .star "*", none, none, none, none, none, none, none⟩, []⟩ }

theorem coveredTable_cut :
    coveredTable.like = none ∧ ∃ tokens rest, coveredTable.tokens {} = .ok tokens ∧
      { coveredTable with definitions := none }.tokens {} = .ok rest ∧
      tokens.join = "CREATE TABLE IF NOT EXISTS t (\"a, b\" INT) SELECT *" ∧
      Cut "(\"a, b\" INT)" tokens.join rest.join := by
  obtain ⟨tokens, written, join⟩ : ∃ tokens, coveredTable.tokens {} = .ok tokens ∧
      tokens.join = "CREATE TABLE IF NOT EXISTS t (\"a, b\" INT) SELECT *" :=
    ⟨_, rfl, by decide +kernel⟩
  obtain ⟨own, rest, _, _, found, others, _, _, cut⟩ :=
    (optClauses_vanish {}).1 .definitions coveredTable rfl tokens written
  have text : own.join = "(\"a, b\" INT)" := by
    cases found
    decide +kernel
  exact ⟨rfl, tokens, rest, written, others, join, text ▸ cut⟩

end SqlDdl
