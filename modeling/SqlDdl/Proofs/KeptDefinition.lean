import SqlDdl.Definition.Render
import SqlDdl.Proofs.KeptNodes
import SqlDdl.Proofs.KindTexts
import SqlDdl.Proofs.SortedEntries

/-! Insertions make no difference to definitions, except that a column keeps the entries that it does not
declare. If these are `null`, its SQL is the same. -/

namespace SqlDdl

/-- What an insertion may change in a value: nothing that `view` shows, and nothing else either if columns
gain no entries. -/
def Rule.Alike {α β : Type} (rule : Rule) (view : Config → α → β) (first second : α) : Prop :=
  (∀ config, view config second = view config first) ∧
    ((∀ value, ¬ rule.allows .column value) → second = first)

namespace Rule.Alike

variable {α β : Type} {rule : Rule} {view : Config → α → β} {first second third : α}

theorem of_eq (same : first = second) : rule.Alike view first second :=
  same ▸ ⟨fun _ => rfl, fun _ => rfl⟩

theorem trans (before : rule.Alike view first second) (after : rule.Alike view second third) :
    rule.Alike view first third :=
  ⟨fun config => (after.1 config).trans (before.1 config),
    fun closed => (after.2 closed).trans (before.2 closed)⟩

end Rule.Alike

variable {rule : Rule}

theorem DataType.decode_keeps : decode.Keeps rule (.node .dataType) Eq :=
  Record.Keeps.decoder (.ap (.ap (.ap (.map (.field .leaf)) (.optional .leaf)) (.optional .leaf))
    (.optional (Decoder.Keeps.list .leaf))) rfl

namespace KeywordValue

theorem record_keeps (keyword value : String) :
    (record keyword value).Keeps rule [.strict keyword .leaf, .strict value .leaf] Eq :=
  .ap (.map (.field .leaf)) (.field .leaf)

theorem decode_keeps : decode.Keeps rule (.node .keywordValue) Eq :=
  (record_keeps "type" "value").decoder rfl

theorem decodeAction_keeps : decodeAction.Keeps rule (.node .keywordValue) Eq :=
  (record_keeps "type" "value").decoder rfl

theorem decodeIndexKind_keeps : decodeIndexKind.Keeps rule (.node .indexKind) Eq :=
  (record_keeps "keyword" "type").decoder rfl

end KeywordValue

theorem KeywordSetting.decode_keeps : decode.Keeps rule (.node .characterSet) Eq :=
  Record.Keeps.decoder (.ap (.ap (.map (.field .leaf)) (.optional .leaf)) (.field .leaf)) rfl

theorem KeywordExpr.decode_keeps : decode.Keeps rule (.node .defaultValue) Eq :=
  Record.Keeps.decoder (.ap (.map (.field .leaf)) (.field (Expr.decode_keeps .outer))) rfl

namespace ExprSetting

theorem record_keeps (keyword value : String) : (record keyword value).Keeps rule
    [.strict keyword .leaf, .optional "symbol" .leaf, .strict value (.choice .expr)] Eq :=
  .ap (.ap (.map (.field .leaf)) (.optional .leaf)) (.field (Expr.decode_keeps .outer))

theorem decodeComment_keeps : decodeComment.Keeps rule (.node .comment) Eq :=
  (record_keeps "keyword" "value").decoder rfl

theorem decodeIndexOption_keeps : decodeIndexOption.Keeps rule (.node .indexOption) Eq :=
  (record_keeps "type" "expr").decoder rfl

end ExprSetting

theorem ReferenceDefinition.decode_keeps : decode.Keeps rule (.node .reference) Eq :=
  Record.Keeps.decoder (.ap (.ap (.map (.field Tables.decode_keeps)) (.fieldOr (Expr.decode_keeps .outer).list))
    (.fieldOr KeywordValue.decodeAction_keeps.list)) rfl

theorem GeneratedColumn.decode_keeps : decode.Keeps rule (.node .generated) Eq :=
  Record.Keeps.decoder (.ap (.ap (.map (.optional .leaf)) (.field (Expr.decode_keeps .outer)))
    (.optional .leaf)) rfl

theorem IndexDefinition.decode_keeps : decode.Keeps rule (.node .index) Eq :=
  Record.Keeps.decoder (.ap (.ap (.ap (.ap (.map (.field .leaf)) (.optional .leaf))
    (.optional KeywordValue.decodeIndexKind_keeps)) (.fieldOr (Expr.decode_keeps .outer).list))
    (.optional ExprSetting.decodeIndexOption_keeps.list)) rfl

theorem ConstraintDefinition.decode_keeps : decode.Keeps rule (.node .constraint) Eq :=
  Record.Keeps.decoder (.ap (.ap (.ap (.ap (.ap (.ap (.ap (.map (.optional .leaf)) (.optional .leaf))
    (.field .leaf)) (.optional .leaf)) (.optional KeywordValue.decodeIndexKind_keeps))
    (.fieldOr (Expr.decode_keeps .outer).list)) (.optional ReferenceDefinition.decode_keeps))
    (.optional ExprSetting.decodeIndexOption_keeps.list)) rfl

namespace ColumnDefinition

/-- The declared fields of a column are kept, whatever other entries it has. -/
theorem record_keeps : record.Keeps rule Node.column.fields
    fun build build' => ∀ extra extra',
      (build extra).extra = extra ∧ build' extra' = { build extra with extra := extra' } := by
  refine .apSame (.apSame (.apSame (.apSame (.apSame (.apSame (.apSame (.apSame (.apSame (.apSame
    (.apSame (.apSame (.apSame (.apSame (.mapRelated (.field ColumnRef.decode_keeps) ?respects)
    (.field DataType.decode_keeps)) (.optional KeywordValue.decode_keeps))
    (.optional KeywordExpr.decode_keeps)) (.optional .leaf)) (.optional .leaf)) (.optional .leaf))
    (.optional KeywordValue.decode_keeps)) (.optional ConstraintDefinition.decode_keeps))
    (.optional GeneratedColumn.decode_keeps)) (.optional KeywordSetting.decode_keeps))
    (.optional KeywordValue.decode_keeps)) (.optional KeywordValue.decode_keeps))
    (.optional ExprSetting.decodeComment_keeps)) (.optional ReferenceDefinition.decode_keeps)
  rintro column _ rfl
  intros
  exact ⟨rfl, rfl⟩

/-- The entries of an object that a column does not declare. -/
def undeclared (entries : List (String × Json)) : List (String × Json) :=
  entries.filter fun entry => !record.names.contains entry.1

theorem decode_object {entries : List (String × Json)} {column : ColumnDefinition} :
    decode (.object entries) = .ok column ↔
      ∃ build, record.ofEntries entries = .ok build ∧ build (.ofEntries (undeclared entries)) = column := by
  rw [decode, bind_eq_ok]
  exact exists_congr fun build => and_congr_right fun _ => ⟨Except.ok.inj, congrArg Except.ok⟩

theorem contains_names {field : Field} (declared : field ∈ Node.column.fields) :
    record.names.contains field.name = true :=
  List.contains_iff_mem.mpr (List.mem_map_of_mem declared : field.name ∈ Node.column.fields.map Field.name)

/-- At most one entry that a column does not declare is inserted. -/
theorem undeclared_insertion {entries entries' : List (String × Json)}
    (insertion : Insertion rule (.node .column) (.object entries) (.object entries')) :
    undeclared entries' = undeclared entries ∨
      ∃ before name value after, rule.allows .column value ∧ (before ++ after).lookup name = none ∧
        undeclared entries = before ++ after ∧ undeclared entries' = before ++ (name, value) :: after := by
  have names : record.names = Node.column.fields.map Field.name := rfl
  cases insertion with
  | null member isOptional absent =>
    refine Or.inl ?_
    simp only [undeclared, List.filter_append, List.filter_cons, contains_names member, Bool.not_true,
      Bool.false_eq_true, if_false]
  | entry unknown absent allowed =>
    rename_i name value before after
    have kept : record.names.contains name = false := by
      rw [names]
      exact Bool.eq_false_iff.mpr fun found => unknown (List.contains_iff_mem.mp found)
    refine Or.inr ⟨undeclared before, name, value, undeclared after, allowed, ?_, ?_, ?_⟩
    · rw [undeclared, undeclared, ← List.filter_append]
      exact List.lookup_eq_none_iff.mpr fun entry member =>
        List.lookup_eq_none_iff.mp absent entry (List.mem_filter.mp member).1
    · exact List.filter_append ..
    · simp only [undeclared, List.filter_append, List.filter_cons, kept, Bool.not_false, if_true]
  | field member inner =>
    refine Or.inl ?_
    simp only [undeclared, List.filter_append, List.filter_cons, contains_names member, Bool.not_true,
      Bool.false_eq_true, if_false]

/-- The column after an insertion differs at most in the entries that it does not declare. Its SQL is the
same. -/
theorem decode_keeps : decode.Keeps rule (.node .column) (rule.Alike tokens) := by
  intro json json' column insertion decoded
  cases json with
  | object entries =>
    obtain ⟨build, found, rfl⟩ := decode_object.mp decoded
    obtain ⟨entries', rfl, kept⟩ := insertion.kept_entries
    obtain ⟨build', found', same⟩ := record_keeps.ofEntries kept found
    have changed := same (.ofEntries (undeclared entries)) (.ofEntries (undeclared entries'))
    have alike := undeclared_insertion insertion
    refine ⟨_, decode_object.mpr ⟨build', found', rfl⟩, fun config => ?_, fun closed => ?_⟩
    · have field : (build' (.ofEntries (undeclared entries'))).unsupportedField? =
          (build (.ofEntries (undeclared entries))).unsupportedField? := by
        rw [unsupportedField?, unsupportedField?, changed.2, changed.1]
        rcases alike with equal | ⟨before, name, value, after, allowed, absent, split, inserted⟩
        · rw [equal]
        · obtain rfl := rule.column value allowed
          rw [split, inserted]
          exact congrArg _ (Json.find?_sortEntries_insert absent (Bool.and_false _))
      rw [tokens, tokens, field, changed.2]
      rfl
    · rcases alike with equal | ⟨_, _, value, _, allowed, _⟩
      · rw [changed.2, equal]
        have own := changed.1
        generalize build (.ofEntries (undeclared entries)) = column at own ⊢
        rw [← own]
      · exact absurd allowed (closed value)
  | _ => cases decoded

end ColumnDefinition

namespace Definition

theorem resource_undeclared {node : Node} (apart : "resource" ∉ node.fields.map Field.name) :
    ∀ field ∈ node.fields, field.name = "resource" → field.isOptional = false ∧ field.shape = .leaf :=
  fun field declared same => absurd (List.mem_map.mpr ⟨field, declared, same⟩) apart

theorem shape_unsupported {json entry : Json} (found : json.get? "resource" = some entry)
    (other : entry.keywordText ≠ "column" ∧ entry.keywordText ≠ "index" ∧ entry.keywordText ≠ "constraint") :
    Choice.definition.shape json = .node .unsupported := by
  simp only [Choice.shape, found]
  split
  case h_4 => rfl
  all_goals
    rename_i same
    cases same
    exact absurd other (by decide)

theorem decode_keeps : decode.Keeps rule (.choice .definition) (rule.Alike tokens) := by
  intro json json' definition insertion decoded
  have same {α : Type} (build : α → Definition) (part part' : α) (equal : part = part') :
      rule.Alike tokens (build part) (build part') := .of_eq (congrArg build equal)
  cases insertion with
  | choice insertion =>
    cases found : json.get? "resource" with
    | none =>
      simp only [decode, found] at decoded
      cases decoded
    | some entry =>
      rcases kind_cases entry with rfl | rfl | rfl | other
      · exact Decoder.Keeps.chosen (fun _ found => ⟨decode_column found, by simp only [Choice.shape, found]⟩)
          (resource_undeclared (by decide +kernel)) ColumnDefinition.decode_keeps
          (fun _ _ alike => ⟨alike.1, fun closed => congrArg column (alike.2 closed)⟩) insertion found decoded
      · exact Decoder.Keeps.chosen (fun _ found => ⟨decode_index found, by simp only [Choice.shape, found]⟩)
          (resource_undeclared (by decide +kernel)) IndexDefinition.decode_keeps (same index) insertion found
          decoded
      · exact Decoder.Keeps.chosen (fun _ found => ⟨decode_constraint found, by simp only [Choice.shape, found]⟩)
          (resource_undeclared (by decide +kernel)) ConstraintDefinition.decode_keeps (same constraint) insertion
          found decoded
      · have constant : Decoder.Keeps rule (.node .unsupported) Eq
            fun _ => .ok (unsupported entry.keywordText) := .constant
        exact Decoder.Keeps.chosen (fun _ found => ⟨decode_unsupported found other, shape_unsupported found other⟩)
          (resource_undeclared (by decide +kernel)) constant (same id) insertion found decoded

end Definition

end SqlDdl
