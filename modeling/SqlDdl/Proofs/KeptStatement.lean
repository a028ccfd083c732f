import Mathlib.Logic.Relation
import SqlDdl.Proofs.KeptDefinition
import SqlDdl.Statement.Render

/-! Insertions make no difference to statements: what a parser adds to its output, fields that are `null`
and entries that no node declares, changes neither the statement nor, in columns, its SQL. -/

namespace SqlDdl

variable {rule : Rule}

theorem LikeClause.decode_keeps : decode.Keeps rule (.node .like) Eq :=
  Record.Keeps.decoder (.ap (.map (.field .leaf)) (.field Tables.decode_keeps)) rfl

theorem EventColumns.decode_keeps : decode.Keeps rule (.node .eventColumns) Eq :=
  Record.Keeps.decoder (.ap (.map (.field .leaf)) (.fieldOr ColumnRef.decode_keeps.list)) rfl

theorem TriggerEvent.decode_keeps : decode.Keeps rule (.node .event) Eq :=
  Record.Keeps.decoder (.ap (.map (.field .leaf)) (.optional EventColumns.decode_keeps)) rfl

theorem KeywordArgs.decode_keeps : decode.Keeps rule (.node .keywordArgs) Eq :=
  Record.Keeps.decoder (.ap (.map (.field .leaf)) (.optional .leaf)) rfl

theorem TriggerCondition.decode_keeps : decode.Keeps rule (.node .triggerCondition) Eq :=
  Record.Keeps.decoder (.ap (.ap (.map (.field .leaf)) (.field (Expr.decode_keeps .outer)))
    (.fieldOr .leaf)) rfl

theorem TriggerAction.decode_keeps : decode.Keeps rule (.node .triggerAction) Eq :=
  Record.Keeps.decoder (.ap (.map (.field .leaf)) (.field FunctionCall.decode_keeps)) rfl

theorem TriggerStatement.decode_keeps : decode.Keeps rule (.node .trigger) Eq :=
  Record.Keeps.decoder (.ap (.ap (.ap (.ap (.ap (.ap (.ap (.ap (.ap (.ap (.ap (.map (.field .leaf))
    (.optional .leaf)) (.field .leaf)) (.optional .leaf)) (.optional .leaf))
    (.fieldOr TriggerEvent.decode_keeps.list)) (.field (TableRef.decode_keeps .outer)))
    (.optional (TableRef.decode_keeps .outer))) (.optional KeywordArgs.decode_keeps))
    (.optional KeywordArgs.decode_keeps)) (.optional TriggerCondition.decode_keeps))
    (.field TriggerAction.decode_keeps)) rfl

namespace TableStatement

/-- The body of a table depends on the tokens of its definitions only. -/
theorem renderBody_congr {config : Config} {definitions definitions' : List Definition}
    (same : List.Forall₂ (fun first second => second.tokens config = first.tokens config) definitions
      definitions') : renderBody config definitions' = renderBody config definitions := by
  have texts : (definitions'.mapM fun definition => return (← definition.tokens config).join) =
      definitions.mapM fun definition => return (← definition.tokens config).join := by
    induction same with
    | nil => rfl
    | cons first _ ih => rw [List.mapM_cons, List.mapM_cons, ih, first]
  rw [renderBody, renderBody, texts]

theorem alike_of_definitions {statement : TableStatement} {definitions : Option (List Definition)}
    (alike : Option.Rel (List.Forall₂ (rule.Alike Definition.tokens)) statement.definitions definitions) :
    rule.Alike render statement { statement with definitions } := by
  refine ⟨fun config => ?_, fun closed => ?_⟩
  · have body : bodyTokens config { statement with definitions } = statement.bodyTokens config := by
      unfold bodyTokens
      generalize statement.definitions = before at alike
      cases alike with
      | none => rfl
      | some alike =>
        show (renderBody config _).map Tokens.text = (renderBody config _).map Tokens.text
        rw [renderBody_congr (alike.imp fun _ _ part => part.1 config)]
    have tokens : tokens config { statement with definitions } = statement.tokens config := by
      unfold TableStatement.tokens
      rw [body]
      rfl
    rw [render, render, tokens]
  · have same : definitions = statement.definitions := by
      generalize statement.definitions = before at alike
      cases alike with
      | none => rfl
      | some alike =>
        have equal : List.Forall₂ Eq _ _ := alike.imp fun _ _ part => (part.2 closed).symm
        rw [List.forall₂_eq_eq_eq] at equal
        exact congrArg some equal.symm
    rw [same]

theorem decode_keeps : decode.Keeps rule (.node .table) (rule.Alike render) := by
  have definition : Definition.decode.Keeps rule _ _ := Definition.decode_keeps
  have definitions := definition.listRelated fun _ => .of_eq rfl
  refine Record.Keeps.decoder (.apSame (.apSame (.apSame (.apSame (.apRelated (.apSame (.apSame (.apSame
    (.apSame (.apSame (.mapRelated (.field .leaf) ?respects) (.optional .leaf)) (.field .leaf))
    (.field Tables.decode_keeps)) (.optional .leaf)) (.optional LikeClause.decode_keeps))
    (.optionalRelated (fun _ => List.forall₂_same.mpr fun _ _ => .of_eq rfl) definitions))
    (.optional TableOption.decode_keeps.list)) (.optional .leaf)) (.optional .leaf))
    (.optional Query.decode_keeps)) rfl
  rintro create _ rfl temporary keyword table ifNotExists like before after alike options ignoreReplace
    asMarker query
  exact alike_of_definitions alike

end TableStatement

namespace Statement

theorem shape_table {json : Json} {keyword : String} (isTable : lower (trim keyword) = "table")
    (found : json.get? "keyword" = some (.string keyword)) : Choice.statement.shape json = .node .table := by
  simp only [Choice.shape, found, isTable]

theorem shape_trigger {json : Json} {keyword : String} (isTrigger : lower (trim keyword) = "trigger")
    (found : json.get? "keyword" = some (.string keyword)) : Choice.statement.shape json = .node .trigger := by
  simp only [Choice.shape, found, isTrigger]

theorem shape_unsupported {json entry : Json} (found : json.get? "keyword" = some entry)
    (other : lower (trim entry.keywordText) ≠ "table" ∧ lower (trim entry.keywordText) ≠ "trigger") :
    Choice.statement.shape json = .node .unsupported := by
  obtain ⟨table, trigger⟩ := other
  simp only [Choice.shape, found]
  split
  · rename_i same
    cases same
    rw [Json.keywordText] at table trigger
    simp only
  · rfl

theorem decode_keeps : decode.Keeps rule (.choice .statement) (rule.Alike render) := by
  intro json json' statement insertion decoded
  have same {α : Type} (build : α → Statement) (part part' : α) (equal : part = part') :
      rule.Alike render (build part) (build part') := .of_eq (congrArg build equal)
  cases insertion with
  | choice insertion =>
    cases found : json.get? "keyword" with
    | none =>
      simp only [decode, found] at decoded
      cases decoded
    | some entry =>
      rcases kind_cases entry with ⟨keyword, rfl, isTable⟩ | ⟨keyword, rfl, isTrigger⟩ | other
      · exact Decoder.Keeps.chosen (fun _ found => ⟨decode_table isTable found, shape_table isTable found⟩)
          (by simp [Node.fields, Field.strict, Field.optional]) TableStatement.decode_keeps
          (fun _ _ alike => ⟨alike.1, fun closed => congrArg table (alike.2 closed)⟩) insertion found decoded
      · exact Decoder.Keeps.chosen
          (fun _ found => ⟨decode_trigger isTrigger found, shape_trigger isTrigger found⟩)
          (by simp [Node.fields, Field.strict, Field.optional]) TriggerStatement.decode_keeps (same trigger)
          insertion found decoded
      · have constant : Decoder.Keeps rule (.node .unsupported) Eq
            fun _ => .ok (unsupported entry.keywordText) := .constant
        exact Decoder.Keeps.chosen (fun _ found => ⟨decode_unsupported found other, shape_unsupported found other⟩)
          (by simp [Node.fields]) constant (same id) insertion found decoded

/-- Any number of insertions keep a statement. -/
theorem ofJson_keeps {json json' : Json} {statement : Statement} (decoded : ofJson json = .ok statement)
    (inserted : Relation.ReflTransGen (Insertion rule (.choice .statement)) json json') :
    ∃ statement', ofJson json' = .ok statement' ∧ rule.Alike render statement statement' := by
  induction inserted with
  | refl => exact ⟨statement, decoded, .of_eq rfl⟩
  | tail _ last ih =>
    obtain ⟨statement', found, alike⟩ := ih
    obtain ⟨final, decodedLast, same⟩ := decode_keeps _ _ _ last (mapError_eq_ok.mp found)
    exact ⟨final, mapError_eq_ok.mpr decodedLast, alike.trans same⟩

/-- Fields that are `null` and entries that no node declares change no statement, if no entry is added to
a column that it does not declare. If such entries of columns are `null`, they do not change the SQL. -/
theorem ofJson_insertions {json json' : Json} {statement : Statement} (decoded : ofJson json = .ok statement) :
    (Relation.ReflTransGen (Insertion .besidesColumns (.choice .statement)) json json' →
      ofJson json' = .ok statement) ∧
    (Relation.ReflTransGen (Insertion .nullInColumns (.choice .statement)) json json' →
      ∃ statement', ofJson json' = .ok statement' ∧
        ∀ config, statement'.render config = statement.render config) := by
  constructor
  · intro inserted
    obtain ⟨_, found, alike⟩ := ofJson_keeps decoded inserted
    rw [found, alike.2 fun _ allowed => allowed rfl]
  · intro inserted
    obtain ⟨statement', found, alike⟩ := ofJson_keeps decoded inserted
    exact ⟨statement', found, alike.1⟩

/-- The table gains a field that is `null` and an entry that it does not declare. Otherwise a column gains
such an entry, and the table a field. Both are `null` then. -/
theorem ofJson_insertions_column :
    let column := [("column", .object [("column", .string "a")]),
      ("definition", .object [("dataType", .string "int")]), ("resource", .string "column")]
    let json (column rest : List (String × Json)) : Json :=
      .object (("create_definitions", .array [.object column]) ::
        ("keyword", .string "table") :: ("table", .object [("table", .string "t")]) :: rest)
    ∃ statement statement', ofJson (json column [("type", .string "create")]) = .ok statement ∧
      ofJson (json column [("temporary", .null), ("zone", .bool true), ("type", .string "create")]) =
        .ok statement ∧
      ofJson (json (("always", .null) :: column) [("temporary", .null), ("type", .string "create")]) =
        .ok statement' ∧ ∀ config, statement'.render config = statement.render config := by
  intro column json
  have isTable : ∀ column rest, Choice.statement.shape (json column rest) = .node .table := by
    intro column rest
    have found : (json column rest).get? "keyword" = some (.string "table") := rfl
    have lowered : lower (trim "table") = "table" := by decide +kernel
    simp only [Choice.shape, found, lowered]
  have temporary {rule : Rule} {column rest : List (String × Json)}
      (absent : rest.lookup "temporary" = none) : Insertion rule (.choice .statement)
        (json column rest) (json column (("temporary", .null) :: rest)) := by
    have declared : Field.optional "temporary" .leaf ∈ Node.table.fields := by
      simp only [Node.fields, List.mem_cons, true_or, or_true]
    refine .choice ?_
    rw [isTable]
    exact @Insertion.null _ _ _ [_, _, _] _ declared rfl absent
  have undeclared : Insertion .besidesColumns (.choice .statement)
      (json column [("type", .string "create")])
      (json column [("zone", .bool true), ("type", .string "create")]) := by
    have noColumn : Node.table ≠ .column := by decide
    refine .choice ?_
    rw [isTable]
    exact @Insertion.entry _ _ _ _ [_, _, _] [_] (by decide +kernel) (by decide +kernel) noColumn
  have gained : Insertion .nullInColumns (.node .column) (.object ([] ++ column))
      (.object ([] ++ ("always", .null) :: column)) :=
    .entry (by decide +kernel) (by decide +kernel) fun _ => rfl
  have definitions : Insertion .nullInColumns (.list (.choice .definition))
      (.array ([] ++ .object column :: [])) (.array ([] ++ .object (("always", .null) :: column) :: [])) :=
    .item (.choice gained)
  have inColumn : Insertion .nullInColumns (.choice .statement) (json column [("type", .string "create")])
      (json (("always", .null) :: column) [("type", .string "create")]) := by
    have declared : Field.optional "create_definitions" (.list (.choice .definition)) ∈ Node.table.fields := by
      simp only [Node.fields, List.mem_cons, true_or, or_true]
    refine .choice ?_
    rw [isTable]
    exact @Insertion.field _ _ _ _ _ [] _ declared definitions
  have decodes : (ofJson (json column [("type", .string "create")])).toOption.isSome = true := by
    decide +kernel
  obtain ⟨statement, found⟩ := Option.isSome_iff_exists.mp decodes
  have decoded := eq_ok_of_toOption found
  have kept := (ofJson_insertions decoded).1 (.tail (.single undeclared) (temporary rfl))
  obtain ⟨statement', found', same⟩ := (ofJson_insertions decoded).2 (.tail (.single inColumn) (temporary rfl))
  exact ⟨statement, statement', decoded, kept, found', same⟩

end Statement

end SqlDdl
