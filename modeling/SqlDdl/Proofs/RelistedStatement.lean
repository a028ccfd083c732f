import SqlDdl.Proofs.KeptStatement
import SqlDdl.Proofs.Relisting

/-! The SQL of a statement does not tell whether a single table was given by itself or as a list. -/

namespace SqlDdl

variable {α β : Type}

/-- Whether two nodes look the same to every configuration. -/
def SameSql (view : Config → α → β) (first second : α) : Prop :=
  ∀ config, view config second = view config first

theorem Tokens.part_congr {related : α → α → Prop} {value value' : Option α} {tokens : α → Tokens}
    (same : Option.Rel related value value')
    (each : ∀ first second, related first second → tokens second = tokens first) :
    part value' tokens = part value tokens := by
  cases same with
  | none => rfl
  | some relation => exact each _ _ relation

/-- Whether two lists of tables are the same, where a single table is the list of it. -/
def Tables.Same (first second : Tables) : Prop :=
  second.toList = first.toList

theorem Tables.Same.render {first second : Tables} (same : first.Same second) :
    SameSql Tables.render first second := by
  intro config
  rw [Tables.render, Tables.render, same]

theorem Tables.decode_respects : decode.Respects (Relisting (.choice .tables)) Same := by
  intro json json' tables relisting decoded
  cases relisting with
  | list found =>
    obtain ⟨single, listed⟩ := decode_single found
    cases single.symm.trans decoded
    exact ⟨_, listed, rfl⟩
  | single found =>
    obtain ⟨single, listed⟩ := decode_single found
    cases listed.symm.trans decoded
    exact ⟨_, single, rfl⟩
  | choice inner =>
    have free := inner.not_isFree
    rw [Choice.isFree_tables] at free
    cases free

theorem ReferenceDefinition.decode_respects :
    decode.Respects (Relisting (.node .reference)) (SameSql render) := by
  refine Record.Respects.relistedNode (.apSame (.apSame (.map
    (.field Tables.decode_respects fun _ => rfl) ?carries) (.freeFieldOr rfl)) (.freeFieldOr rfl))
  intro tables tables' same columns actions config
  simp only [render, same.render config]

theorem ConstraintDefinition.decode_respects :
    decode.Respects (Relisting (.node .constraint)) (SameSql tokens) := by
  refine Record.Respects.relistedNode (.apSame (.ap (.apSame (.apSame (.apSame (.apSame (.apSame (.map
    (.freeOptional rfl) ?carries) (.freeOptional rfl)) (.freeField rfl)) (.freeOptional rfl))
    (.freeOptional rfl)) (.freeFieldOr rfl))
    (.optional ReferenceDefinition.decode_respects fun _ _ => rfl)) (.freeOptional rfl))
  rintro name _ rfl keyword kind index indexKind exprs reference reference' same options config
  have part : Tokens.part reference' (fun reference => .text (reference.render config)) =
      Tokens.part reference fun reference => .text (reference.render config) :=
    Tokens.part_congr same fun _ _ equal => congrArg Tokens.text (equal config)
  simp only [tokens, part]
  rfl

namespace ColumnDefinition

theorem record_respects : record.Respects Field.Relisted Node.column.fields
    fun build build' => ∀ extra, SameSql tokens (build extra) (build' extra) := by
  refine .ap (.apSame (.apSame (.apSame (.apSame (.apSame (.ap (.apSame (.apSame (.apSame (.apSame
    (.apSame (.apSame (.apSame (.map (.freeField rfl) ?carries) (.freeField rfl)) (.freeOptional rfl))
    (.freeOptional rfl)) (.freeOptional rfl)) (.freeOptional rfl)) (.freeOptional rfl)) (.freeOptional rfl))
    (.optional ConstraintDefinition.decode_respects fun _ _ => rfl)) (.freeOptional rfl)) (.freeOptional rfl))
    (.freeOptional rfl)) (.freeOptional rfl)) (.freeOptional rfl))
    (.optional ReferenceDefinition.decode_respects fun _ _ => rfl)
  rintro column _ rfl dataType nullable default autoIncrement unique primaryKey collate check check' sameCheck
    generated characterSet columnFormat storage comment reference reference' sameReference extra config
  have checks : Tokens.part check' (ConstraintDefinition.tokens config) =
      Tokens.part check (ConstraintDefinition.tokens config) :=
    Tokens.part_congr sameCheck fun _ _ equal => equal config
  have references : Tokens.part reference' (fun reference => .text (reference.render config)) =
      Tokens.part reference fun reference => .text (reference.render config) :=
    Tokens.part_congr sameReference fun _ _ equal => congrArg Tokens.text (equal config)
  simp only [tokens, fieldTokens, checks, references]
  rfl

theorem undeclared_relisting {entries entries' : List (String × Json)}
    (relisting : Relisting (.node .column) (.object entries) (.object entries')) :
    undeclared entries' = undeclared entries := by
  cases relisting with
  | field declared inner =>
    simp only [undeclared, List.filter_append, List.filter_cons, contains_names declared, Bool.not_true,
      Bool.false_eq_true, if_false]

theorem decode_respects : decode.Respects (Relisting (.node .column)) (SameSql tokens) := by
  intro json json' column relisting decoded
  cases json with
  | object entries =>
    obtain ⟨build, found, rfl⟩ := decode_object.mp decoded
    obtain ⟨entries', rfl, each⟩ := relisting.inFields.ofEntries entries rfl
    obtain ⟨build', found', same⟩ := record_respects.ofEntries each found
    have extra := undeclared_relisting relisting
    exact ⟨_, decode_object.mpr ⟨build', found', rfl⟩, extra ▸ same _⟩
  | _ => cases decoded

end ColumnDefinition

namespace Definition

theorem shape_of_not_isFree {json : Json} (tables : (Choice.definition.shape json).isFree = false) :
    json.get? "resource" = some (.string "column") ∧ Choice.definition.shape json = .node .column ∨
      json.get? "resource" = some (.string "constraint") ∧
        Choice.definition.shape json = .node .constraint := by
  simp only [Choice.shape] at tables ⊢
  split at tables
  · rename_i found
    exact Or.inl ⟨found, rfl⟩
  · cases tables
  · rename_i found
    exact Or.inr ⟨found, rfl⟩
  · cases tables

theorem decode_respects : decode.Respects (Relisting (.choice .definition)) (SameSql tokens) := by
  intro json json' definition relisting decoded
  cases relisting with
  | choice inner =>
    rcases shape_of_not_isFree inner.not_isFree with ⟨found, shape⟩ | ⟨found, shape⟩
    · rw [shape] at inner
      exact Decoder.Respects.chosen (fun _ => decode_column) ColumnDefinition.decode_respects
        (fun _ _ same => same) inner found ((inner.get?_eq (by decide +kernel)).trans found) decoded
    · rw [shape] at inner
      exact Decoder.Respects.chosen (fun _ => decode_constraint) ConstraintDefinition.decode_respects
        (fun _ _ same config => congrArg Except.ok (same config)) inner found
        ((inner.get?_eq (by decide +kernel)).trans found) decoded

end Definition

/-- Whether two selects of a query are written in the same way. -/
structure Select.Same (first second : Select) : Prop where
  render : SameSql render first second
  operation : second.operation = first.operation

theorem Select.record_respects :
    record.Respects Field.Relisted (Node.select.fields.take 9) Same := by
  refine .apSame (.apSame (.apSame (.apSame (.apSame (.apSame (.ap (.apSame (.map
    (.freeOptional rfl) ?carries) (.freeField rfl)) (.optional Tables.decode_respects fun _ => rfl))
    (.freeOptional rfl)) (.freeOptional rfl)) (.freeOptional rfl)) (.freeOptional rfl)) (.freeOptional rfl))
    (.freeOptional rfl)
  rintro distinct _ rfl columns source source' same condition groupBy having orderBy limit setOperation
  refine ⟨fun config => ?_, rfl⟩
  have part : Tokens.part source' (fun tables => clause "FROM" (tables.render config)) =
      Tokens.part source fun tables => clause "FROM" (tables.render config) :=
    Tokens.part_congr same fun _ _ equal => congrArg (clause "FROM") (equal.render config)
  simp only [Select.render, tokens, part]

namespace Query

/-- Whether the selects of two queries are written in the same way. -/
def Same (first second : Query) : Prop :=
  List.Forall₂ Select.Same (first.first :: first.later) (second.first :: second.later)

theorem Same.refl (query : Query) : query.Same query :=
  List.forall₂_same.mpr fun _ _ => ⟨fun _ => rfl, rfl⟩

theorem laterTokens_congr {config : Config} {first second : Select} {later later' : List Select}
    (same : first.Same second) (rest : List.Forall₂ Select.Same later later') :
    laterTokens config second later' = laterTokens config first later := by
  induction rest generalizing first second with
  | nil => rfl
  | cons next _ ih => rw [laterTokens, laterTokens, same.operation, next.render config, ih next]

theorem Same.render {first second : Query} (same : first.Same second) : SameSql render first second := by
  intro config
  cases same with
  | cons same rest => rw [Query.render, Query.render, same.render config, laterTokens_congr same rest]

theorem decodeLayer_respects {next : Decoder Query} (respects : next.Respects (Relisting (.node .select)) Same) :
    (decodeLayer next).Respects (Relisting (.node .select)) Same := by
  refine Record.Respects.relistedNode (.ap (.map Select.record_respects ?carries) (.optional respects .refl))
  intro select select' same next next' rest
  cases rest with
  | none => exact .cons same .nil
  | some rest => exact .cons same rest

theorem decode_respects : decode.Respects (Relisting (.node .select)) Same :=
  .of_layers isLayered (fun _ respects _ => decodeLayer_respects (respects ())) ()

end Query

/-- Whether two clauses are written in the same way. -/
structure LikeClause.Same (first second : LikeClause) : Prop where
  keyword : second.keyword = first.keyword
  table : first.table.Same second.table

theorem LikeClause.decode_respects : decode.Respects (Relisting (.node .like)) Same := by
  refine Record.Respects.relistedNode (.ap (.map (.freeField rfl) ?carries)
    (.field Tables.decode_respects fun _ => rfl))
  rintro keyword _ rfl tables tables' same
  exact ⟨rfl, same⟩

namespace TableStatement

theorem decode_respects : decode.Respects (Relisting (.node .table)) (SameSql render) := by
  have definitions := Definition.decode_respects.relistedList fun _ _ => rfl
  have unchanged : ∀ body : List Definition, List.Forall₂ (SameSql Definition.tokens) body body := fun body =>
    List.forall₂_same.mpr fun _ _ _ => rfl
  refine Record.Respects.relistedNode (.ap (.apSame (.apSame (.apSame (.ap (.ap (.apSame (.ap (.apSame (.apSame
    (.map (.freeField rfl) ?carries) (.freeOptional rfl)) (.freeField rfl))
    (.field Tables.decode_respects fun _ => rfl)) (.freeOptional rfl))
    (.optional LikeClause.decode_respects fun _ => ⟨rfl, rfl⟩)) (.optional definitions unchanged))
    (.freeOptional rfl)) (.freeOptional rfl)) (.freeOptional rfl))
    (.optional Query.decode_respects .refl))
  rintro create _ rfl temporary keyword tables tables' sameTables ifNotExists like like' sameLike body body'
    sameBody options ignoreReplace asMarker query query' sameQuery config
  have source : tables'.render config = tables.render config := sameTables.render config
  have queries : Tokens.part query' (fun query => .text (query.render config)) =
      Tokens.part query fun query => .text (query.render config) :=
    Tokens.part_congr sameQuery fun _ _ equal => congrArg Tokens.text (equal.render config)
  refine congrArg (Except.map Tokens.join) ?_
  cases sameLike with
  | none =>
    cases sameBody with
    | none => simp only [tokens, headTokens, bodyTokens, tailTokens, source, queries]
    | some equal =>
      have definitions := renderBody_congr (equal.imp fun _ _ same => same config)
      simp only [tokens, headTokens, bodyTokens, tailTokens, source, queries, definitions]
  | some equal =>
    simp only [tokens, headTokens, source, equal.keyword, equal.table.render config]

end TableStatement

namespace Statement

theorem shape_of_not_isFree {json : Json} (tables : (Choice.statement.shape json).isFree = false) :
    ∃ keyword, lower (trim keyword) = "table" ∧ json.get? "keyword" = some (.string keyword) ∧
      Choice.statement.shape json = .node .table := by
  simp only [Choice.shape] at tables ⊢
  split at tables
  · rename_i keyword found
    split at tables
    · rename_i isTable
      exact ⟨keyword, isTable, found, rfl⟩
    · cases tables
    · cases tables
  · cases tables

theorem decode_respects : decode.Respects (Relisting (.choice .statement)) (SameSql render) := by
  intro json json' statement relisting decoded
  cases relisting with
  | choice inner =>
    obtain ⟨keyword, isTable, found, shape⟩ := shape_of_not_isFree inner.not_isFree
    rw [shape] at inner
    have free : ∀ field ∈ Node.table.fields, field.name = "keyword" → field.shape.isFree = true := by
      decide +kernel
    exact Decoder.Respects.chosen (fun _ => decode_table isTable) TableStatement.decode_respects
      (fun _ _ same => same) inner found ((inner.get?_eq free).trans found) decoded

/-- Any number of tables can be relisted. -/
theorem ofJson_relisted {json json' : Json} {statement : Statement}
    (relisted : Relation.ReflTransGen (Relisting (.choice .statement)) json json')
    (decoded : ofJson json = .ok statement) :
    ∃ statement', ofJson json' = .ok statement' ∧
      ∀ config, statement'.render config = statement.render config := by
  induction relisted with
  | refl => exact ⟨statement, decoded, fun _ => rfl⟩
  | tail _ last ih =>
    obtain ⟨statement', found, same⟩ := ih
    obtain ⟨final, decodedLast, alike⟩ := decode_respects _ _ _ last (mapError_eq_ok.mp found)
    exact ⟨final, mapError_eq_ok.mpr decodedLast, fun config => (alike config).trans (same config)⟩

/-- Of the shapes that a marker, tables, the value of an option and the columns of a select may have, no value
has two, so that the order in which they are tried makes no difference. What is a table is the same list of
tables by itself and as the only item of an array, and a statement is written in the same way with either. -/
theorem alternatives_exclusive :
    (Marker.decode.IsExclusive "Marker" Marker.alternatives ∧
      Tables.decode.IsExclusive "Tables" Tables.alternatives ∧
      OptionValue.decode.IsExclusive "OptionValue" OptionValue.alternatives ∧
      SelectColumns.decode.IsExclusive "SelectColumns" SelectColumns.alternatives) ∧
    (∀ place json ref, TableRef.decode place json = .ok ref →
      (Tables.decode json).map Tables.toList = .ok [ref] ∧
        (Tables.decode (.array [json])).map Tables.toList = .ok [ref]) ∧
    ∀ json json' statement, Relation.ReflTransGen (Relisting (.choice .statement)) json json' →
      ofJson json = .ok statement →
        ∃ statement', ofJson json' = .ok statement' ∧
          ∀ config, statement'.render config = statement.render config := by
  refine ⟨⟨Marker.isExclusive, Tables.isExclusive, OptionValue.isExclusive, SelectColumns.isExclusive⟩,
    fun place json ref decoded => ?_, fun _ _ _ => ofJson_relisted⟩
  obtain ⟨single, listed⟩ := Tables.decode_single decoded
  rw [single, listed]
  exact ⟨rfl, rfl⟩

/-- A table is given as an array of its fields, and then as the only item of another array. -/
theorem alternatives_exclusive_positional :
    let positional : Json := .array [.string "d", .string "t"]
    let json (table : Json) : Json :=
      .object [("keyword", .string "table"), ("table", table), ("type", .string "create")]
    (Tables.decode positional).map Tables.toList = .ok [(TableRef.named "t").withDb "d"] ∧
      (Tables.decode (.array [positional])).map Tables.toList = .ok [(TableRef.named "t").withDb "d"] ∧
      ∃ statement statement', ofJson (json positional) = .ok statement ∧
        ofJson (json (.array [positional])) = .ok statement' ∧
        ∀ config, statement'.render config = statement.render config := by
  intro positional json
  have decoded : ∀ place, TableRef.decode place positional = .ok ((TableRef.named "t").withDb "d") :=
    fun _ => rfl
  have isTable : ∀ table, Choice.statement.shape (json table) = .node .table := by
    intro table
    have found : (json table).get? "keyword" = some (.string "table") := rfl
    have lowered : lower (trim "table") = "table" := by decide +kernel
    simp only [Choice.shape, found, lowered]
  have declared : Field.strict "table" (.choice .tables) ∈ Node.table.fields := by
    simp only [Node.fields, List.mem_cons, true_or, or_true]
  have relisting : Relisting (.choice .statement) (json positional) (json (.array [positional])) := by
    refine .choice ?_
    rw [isTable]
    exact @Relisting.field _ _ _ _ [_] [_] declared (.list (decoded .inner))
  obtain ⟨statement, found⟩ : ∃ statement, ofJson (json positional) = .ok statement := ⟨_, rfl⟩
  obtain ⟨single, listed⟩ := alternatives_exclusive.2.1 .outer positional _ (decoded .outer)
  obtain ⟨statement', found', same⟩ := alternatives_exclusive.2.2 _ _ statement (.single relisting) found
  exact ⟨single, listed, statement, statement', found, found', same⟩

end Statement

end SqlDdl
