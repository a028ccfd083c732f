import SqlDdl.Proofs.EncodedNodes
import SqlDdl.Proofs.KeptStatement

/-! Statements are decoded from their JSON, whether absent fields are left out or are `null`. -/

namespace SqlDdl

open Json

namespace ColumnDefinition

/-- The declared fields of a column and after them the ones that have no rendering. -/
def allMembers (column : ColumnDefinition) : List (String × Option Json) :=
  column.members ++ column.extra.entries.map fun entry => (entry.1, some entry.2)

theorem present_allMembers (column : ColumnDefinition) :
    present column.allMembers = present column.members ++ column.extra.entries := by
  rw [allMembers, present, List.filterMap_append, List.filterMap_map]
  congr 1
  exact List.filterMap_some

theorem record_reads {column : ColumnDefinition} (encodable : column.dataType.IsEncodable) :
    record.Reads column.allMembers fun extra => { column with extra } := by
  have reads : record.Reads column.allMembers _ :=
    .ap (.ap (.ap (.ap (.ap (.ap (.ap (.ap (.ap (.ap
      (.ap (.ap (.ap (.ap (.map (.field rfl (ColumnRef.decode_toJson _)))
      (.field rfl (DataType.decode_toJson encodable)))
      (.optional rfl fun _ _ => KeywordValue.decode_toJson _))
      (.optional rfl fun _ _ => KeywordExpr.decode_toJson _)) (.optional rfl fun _ _ => .string _))
      (.optional rfl fun _ _ => .string _)) (.optional rfl fun _ _ => .string _))
      (.optional rfl fun _ _ => KeywordValue.decode_toJson _))
      (.optional rfl fun _ _ => ConstraintDefinition.decode_toJson _))
      (.optional rfl fun _ _ => GeneratedColumn.decode_toJson _))
      (.optional rfl fun _ _ => KeywordSetting.decode_toJson _))
      (.optional rfl fun _ _ => KeywordValue.decode_toJson _))
      (.optional rfl fun _ _ => KeywordValue.decode_toJson _))
      (.optional rfl fun _ _ => ExprSetting.decodeComment_toJson _))
      (.optional rfl fun _ _ => ReferenceDefinition.decode_toJson _)
  exact reads

/-- The fields that have no rendering are none of the declared ones. -/
theorem ne_of_mem_extra {column : ColumnDefinition} (encodable : column.IsEncodable)
    {entry : String × Json} (member : entry ∈ column.extra.entries) {field : Field}
    (declared : field ∈ Node.column.fields) : field.name ≠ entry.1 :=
  bne_iff_ne.mp (List.lookup_eq_none_iff.mp (encodable.2.2 field declared) entry member)

theorem allMembers_nodup {column : ColumnDefinition} (encodable : column.IsEncodable) :
    (column.allMembers.map Prod.fst).Nodup := by
  have names : column.members.map Prod.fst = Node.column.fields.map Field.name := rfl
  rw [allMembers, List.map_append, List.map_map, names]
  refine List.nodup_append.mpr ⟨Node.column.fields_nodup, column.extra.sorted.nodup, ?_⟩
  intro name declared key extra
  obtain ⟨field, member, rfl⟩ := List.mem_map.mp declared
  obtain ⟨entry, found, rfl⟩ := List.mem_map.mp extra
  exact ne_of_mem_extra encodable found member

/-- What a column does not declare is what it keeps. -/
theorem undeclared_toJson {column : ColumnDefinition} (encodable : column.IsEncodable) :
    undeclared (sortEntries (present column.allMembers)) = column.extra.entries := by
  have dropped : (present column.members).filter (fun entry => !record.names.contains entry.1) = [] := by
    refine List.filter_eq_nil_iff.mpr fun entry member => ?_
    have inside : entry.1 ∈ record.names :=
      (present_sublist column.members).subset (List.mem_map_of_mem member)
    rw [List.contains_iff_mem.mpr inside]
    exact nofun
  have kept : column.extra.entries.filter (fun entry => !record.names.contains entry.1) =
      column.extra.entries := by
    refine List.filter_eq_self.mpr fun entry member => ?_
    have outside : entry.1 ∉ record.names := by
      intro inside
      have names : record.names = Node.column.fields.map Field.name := rfl
      rw [names] at inside
      obtain ⟨field, declared, same⟩ := List.mem_map.mp inside
      exact ne_of_mem_extra encodable member declared same
    rw [Bool.eq_false_iff.mpr fun found => outside (List.contains_iff_mem.mp found)]
    rfl
  rw [undeclared, filter_sortEntries fun name => !record.names.contains name, present_allMembers,
    List.filter_append, dropped, kept]
  exact sortEntries_of_keysIncrease column.extra.sorted

theorem decode_toJson {column : ColumnDefinition} (encodable : column.IsEncodable) :
    decode.Inverts toJson column := by
  refine ⟨rfl, ?_⟩
  rw [toJson, ← present_allMembers]
  refine decode_object.mpr ⟨_, (record_reads encodable.1).ofMembers (allMembers_nodup encodable), ?_⟩
  rw [undeclared_toJson encodable, Fields.ofEntries_entries]

/-- The kind of a column is among the fields that it keeps. -/
theorem get?_toJson {column : ColumnDefinition} (encodable : column.IsEncodable) :
    column.toJson.get? "resource" = some (.string "column") := by
  have distinct := (allMembers_nodup encodable).sublist (present_sublist column.allMembers)
  have names : (column.members.map Prod.fst).Nodup := Node.column.fields_nodup
  have absent : (present column.members).lookup "resource" = none := lookup_present names "resource"
  rw [present_allMembers] at distinct
  rw [toJson, get?, lookup_sortEntries distinct, List.lookup_append, absent, Option.none_or]
  exact encodable.2.1

end ColumnDefinition

/-- A part of a definition is decoded beside the text that tells its kind. -/
theorem Definition.decode_tagged {α : Type} {node : Node} {part : Decoder α} {build : α → Definition}
    {resource : String} {members : List (String × Option Json)} {value : α}
    (selects : ∀ json : Json, json.get? "resource" = some (.string resource) →
      decode json = (part json).map build)
    (declared : members.map Prod.fst = node.fields.map Field.name)
    (apart : "resource" ∉ node.fields.map Field.name)
    (decodes : ∀ entries : List (String × Json), (∀ name ∈ node.fields.map Field.name,
      entries.lookup name = (members.lookup name).join) → part (.object entries) = .ok value) :
    decode (.tagged "resource" resource members) = .ok (build value) := by
  have distinct : ("resource" :: members.map Prod.fst).Nodup :=
    declared ▸ List.nodup_cons.mpr ⟨apart, node.fields_nodup⟩
  have decoded : part (.tagged "resource" resource members) = .ok value := by
    refine decodes _ fun name member => lookup_tagged distinct ?_
    rintro rfl
    exact apart member
  rw [selects _ (get?_tagged distinct)]
  exact map_eq_ok.mpr ⟨value, decoded, rfl⟩

theorem Definition.decode_toJson {definition : Definition} (encodable : definition.IsEncodable) :
    decode.Inverts toJson definition := by
  cases definition with
  | column column =>
    have decoded := ColumnDefinition.decode_toJson encodable
    refine ⟨rfl, ?_⟩
    rw [toJson, decode_column (ColumnDefinition.get?_toJson encodable)]
    exact map_eq_ok.mpr ⟨column, decoded.2, rfl⟩
  | index index =>
    exact ⟨rfl, decode_tagged (fun _ => decode_index) rfl (by decide +kernel)
      fun _ => IndexDefinition.decode_object⟩
  | constraint constraint =>
    exact ⟨rfl, decode_tagged (fun _ => decode_constraint) rfl (by decide +kernel)
      fun _ => ConstraintDefinition.decode_object⟩
  | unsupported resource =>
    have found : (tagged "resource" resource []).get? "resource" = some (.string resource) :=
      get?_tagged (List.nodup_singleton _)
    exact ⟨rfl, decode_unsupported found encodable⟩

theorem LikeClause.decode_toJson (like : LikeClause) : decode.Inverts toJson like :=
  Record.Reads.inverts .like (.ap (.map (.field rfl (.string _))) (.field rfl (Tables.decode_toJson _))) rfl

theorem EventColumns.decode_toJson (columns : EventColumns) : decode.Inverts toJson columns :=
  Record.Reads.inverts .eventColumns (.ap (.map (.field rfl (.string _)))
    (.fieldOr rfl (.list fun column _ => column.decode_toJson))) rfl

theorem TriggerEvent.decode_toJson (event : TriggerEvent) : decode.Inverts toJson event :=
  Record.Reads.inverts .event (.ap (.map (.field rfl (.string _)))
    (.optional rfl fun _ _ => EventColumns.decode_toJson _)) rfl

theorem KeywordArgs.decode_toJson (clause : KeywordArgs) : decode.Inverts toJson clause :=
  Record.Reads.inverts .keywordArgs (.ap (.map (.field rfl (.string _)))
    (.optional rfl fun _ _ => .string _)) rfl

theorem TriggerCondition.decode_toJson (clause : TriggerCondition) : decode.Inverts toJson clause :=
  Record.Reads.inverts .triggerCondition (.ap (.ap (.map (.field rfl (.string _)))
    (.field rfl (Expr.decode_toJson .outer _))) (.fieldOr rfl (.bool _))) rfl

theorem TriggerAction.decode_toJson (action : TriggerAction) : decode.Inverts toJson action :=
  Record.Reads.inverts .triggerAction (.ap (.map (.field rfl (.string _)))
    (.field rfl (FunctionCall.decode_toJson _))) rfl

theorem TriggerStatement.decode_toJson (statement : TriggerStatement) : decode.Inverts toJson statement :=
  Record.Reads.inverts .trigger (.ap (.ap (.ap (.ap (.ap (.ap (.ap (.ap (.ap (.ap (.ap
    (.map (.field rfl (.string _))) (.optional rfl fun _ _ => Marker.decode_toJson _))
    (.field rfl (.string _))) (.optional rfl fun _ _ => .string _)) (.optional rfl fun _ _ => .string _))
    (.fieldOr rfl (.list fun event _ => event.decode_toJson)))
    (.field rfl (TableRef.decode_toJson .outer _))) (.optional rfl fun _ _ => TableRef.decode_toJson .outer _))
    (.optional rfl fun _ _ => KeywordArgs.decode_toJson _))
    (.optional rfl fun _ _ => KeywordArgs.decode_toJson _))
    (.optional rfl fun _ _ => TriggerCondition.decode_toJson _))
    (.field rfl (TriggerAction.decode_toJson _))) rfl

theorem TableStatement.decode_toJson {statement : TableStatement}
    (encodable : ∀ definitions ∈ statement.definitions, ∀ definition ∈ definitions, definition.IsEncodable) :
    decode.Inverts toJson statement := by
  have definitions : ∀ definitions ∈ statement.definitions,
      (Decoder.list Definition.decode).Inverts (.ofList Definition.toJson) definitions :=
    fun definitions member => .list fun definition inside =>
      Definition.decode_toJson (encodable definitions member definition inside)
  have options : ∀ options ∈ statement.options,
      (Decoder.list TableOption.decode).Inverts (.ofList TableOption.toJson) options :=
    fun options _ => .list fun option _ => option.decode_toJson
  exact Record.Reads.inverts .table (.ap (.ap (.ap (.ap (.ap (.ap (.ap (.ap (.ap (.ap
    (.map (.field rfl (.string _))) (.optional rfl fun _ _ => Marker.decode_toJson _))
    (.field rfl (.string _))) (.field rfl (Tables.decode_toJson _)))
    (.optional rfl fun _ _ => Marker.decode_toJson _)) (.optional rfl fun _ _ => LikeClause.decode_toJson _))
    (.optional rfl definitions)) (.optional rfl options)) (.optional rfl fun _ _ => Marker.decode_toJson _))
    (.optional rfl fun _ _ => Marker.decode_toJson _)) (.optional rfl fun _ _ => Query.decode_toJson _)) rfl

namespace Statement

theorem get?_toJson (statement : Statement) :
    statement.toJson.get? "keyword" = some (.string statement.keyword) := by
  cases statement with
  | table statement =>
    have distinct : (statement.members.map Prod.fst).Nodup := Node.table.fields_nodup
    exact lookup_ofMembers distinct "keyword"
  | trigger statement =>
    have distinct : (statement.members.map Prod.fst).Nodup := Node.trigger.fields_nodup
    exact lookup_ofMembers distinct "keyword"
  | unsupported keyword => exact get?_tagged (List.nodup_singleton _)

theorem decode_toJson {statement : Statement} (encodable : statement.IsEncodable) :
    decode statement.toJson = .ok statement := by
  have found := statement.get?_toJson
  cases statement with
  | table statement =>
    obtain ⟨lowered, definitions⟩ := encodable
    have decoded := TableStatement.decode_toJson definitions
    exact (decode_table lowered found).trans (map_eq_ok.mpr ⟨statement, decoded.2, rfl⟩)
  | trigger statement =>
    have lowered : lower (trim statement.keyword) = "trigger" := encodable
    exact (decode_trigger lowered found).trans (map_eq_ok.mpr ⟨statement, statement.decode_toJson.2, rfl⟩)
  | unsupported keyword => exact decode_unsupported found encodable

/-- A statement is decoded from its JSON. It is no matter which of the absent fields are `null` there and
which are left out. -/
theorem ofJson_toJson {statement : Statement} (encodable : statement.IsEncodable) {json : Json}
    (inserted : Relation.ReflTransGen (Insertion .fieldsOnly (.choice .statement)) statement.toJson json) :
    ofJson json = .ok statement := by
  obtain ⟨_, found, alike⟩ := ofJson_keeps (mapError_eq_ok.mpr (decode_toJson encodable)) inserted
  rw [found, alike.2 fun _ => id]

/-- A table with a column is decoded from its JSON with a field that is `null`. -/
theorem ofJson_toJson_column :
    let column : ColumnDefinition := { ColumnDefinition.named "a" "int" with
      default := some ⟨"default", .unary "-" (.number (.integer 1)) true⟩,
      extra := .ofEntries [("resource", .string "column")] }
    let table := (TableStatement.plain (.named "t")).withDefinitions [.column column]
    let json := Json.object (("as", .null) :: sortEntries (present table.members))
    (Statement.table table).IsEncodable ∧
      Relation.ReflTransGen (Insertion .fieldsOnly (.choice .statement)) table.toJson json ∧
      ofJson json = .ok (.table table) := by
  intro column table json
  have lowered : lower (trim "table") = "table" := by decide +kernel
  have encodable : (Statement.table table).IsEncodable := by
    refine ⟨lowered, ?_⟩
    rintro _ ⟨⟩ definition member
    obtain rfl := List.mem_singleton.mp member
    exact ⟨⟨nofun, nofun⟩, rfl, by decide +kernel⟩
  have isTable : Choice.statement.shape table.toJson = .node .table := by
    have found : table.toJson.get? "keyword" = some (.string "table") := (Statement.table table).get?_toJson
    simp only [Choice.shape, found, lowered]
  have inserted : Insertion .fieldsOnly (.choice .statement) table.toJson json := by
    have distinct : (table.members.map Prod.fst).Nodup := Node.table.fields_nodup
    have declared : Field.optional "as" .leaf ∈ Node.table.fields := by
      simp only [Node.fields, List.mem_cons, true_or, or_true]
    refine .choice ?_
    rw [isTable]
    exact @Insertion.null _ _ _ [] _ declared rfl (lookup_ofMembers distinct "as")
  exact ⟨encodable, .single inserted, ofJson_toJson encodable (.single inserted)⟩

end Statement

end SqlDdl
