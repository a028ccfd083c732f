import SqlDdl.Expr.DecodeLemmas
import SqlDdl.Proofs.Induction
import SqlDdl.Proofs.KeptNodes
import SqlDdl.Proofs.Reads

/-! Expressions, tables, queries and the parts of definitions are decoded from their JSON. -/

namespace SqlDdl

theorem Marker.decode_toJson (marker : Marker) : decode.Inverts toJson marker := by
  cases marker with
  | flag => exact ⟨rfl, rfl⟩
  | text => exact ⟨rfl, rfl⟩

namespace ColumnRef

theorem record_reads {members : List (String × Option Json)} {ref : ColumnRef}
    (table : members.lookup "table" = some (ref.table.map .string))
    (column : members.lookup "column" = some (some (.string ref.column))) : record.Reads members ref :=
  .ap (.map (.optional table fun _ _ => .string _)) (.field column (.string _))

theorem decode_toJson (ref : ColumnRef) : decode.Inverts toJson ref :=
  (record_reads rfl rfl).inverts .columnRef rfl

end ColumnRef

namespace Expr

theorem itemsToJson_eq_map (items : List Expr) : itemsToJson items = items.map toJson := by
  induction items with
  | nil => rfl
  | cons item items ih => rw [itemsToJson, ih, List.map_cons]

theorem toJson_call (name : String) (args : List Expr) :
    (call name (some args)).toJson =
      .tagged "type" "function" [("name", some (.string name)), ("args", some (argsToJson args))] := by
  rw [toJson, itemsToJson_eq_map]
  rfl

theorem toJson_list (items : List Expr) :
    (list items).toJson = .tagged "type" "expr_list" [("value", some (.ofList toJson items))] := by
  rw [toJson, itemsToJson_eq_map]
  rfl

theorem toJson_isNested (expr : Expr) : expr.toJson.isNested = true := by
  cases expr with
  | call name args => cases args <;> rfl
  | _ => rfl

/-- An expression is decoded from its tag and its fields. -/
theorem decode_tagged {place : Place} {tag : String} {form : Form} {members : List (String × Option Json)}
    {value : Expr} (tagged : Form.decode place (.string tag) = .ok form)
    (declared : members.map Prod.fst = (Node.formFields form).map Field.name)
    (reads : (record (decode .inner) form).Reads (("type", some (.string tag)) :: members) value) :
    decode place (.tagged "type" tag members) = .ok value := by
  have distinct : ((("type", some (.string tag)) :: members).map Prod.fst).Nodup := by
    rw [List.map_cons, declared]
    exact (Node.expr form).fields_nodup
  have found := Json.lookup_ofMembers distinct "type"
  rw [decode_eq]
  exact decodeLayer_object.mpr ⟨.string tag, form, found, tagged, reads.ofMembers distinct⟩

theorem decodeArgs_toJson {place : Place} {args : List Expr}
    (inverts : ∀ arg ∈ args, (decode place).Inverts toJson arg) :
    (decodeArgs (decode place)).Inverts argsToJson args :=
  Record.Reads.inverts .arguments (.fieldOr rfl (.list inverts)) rfl

theorem callRecord_reads {members : List (String × Option Json)} {name : String} {args? : Option (List Expr)}
    (named : members.lookup "name" = some (some (.string name)))
    (found : members.lookup "args" = some (args?.map argsToJson))
    (inverts : ∀ args ∈ args?, ∀ arg ∈ args, (decode .inner).Inverts toJson arg) :
    (callRecord (decode .inner)).Reads members (name, args?) :=
  .ap (.map (.field named (.string name)))
    (.optional found fun args member => decodeArgs_toJson (inverts args member))

/-- Every expression is decoded from its JSON, wherever it stands. -/
theorem decode_toJson (place : Place) (expr : Expr) : (decode place).Inverts toJson expr := by
  induction expr using Expr.induct generalizing place with
  | column ref => exact ⟨rfl, decode_tagged rfl rfl (.map (ColumnRef.record_reads rfl rfl))⟩
  | number value => exact ⟨rfl, decode_tagged rfl rfl (.map (.field rfl ⟨rfl, rfl⟩))⟩
  | string value => exact ⟨rfl, decode_tagged rfl rfl (.map (.field rfl (.string _)))⟩
  | quotedString value => exact ⟨rfl, decode_tagged rfl rfl (.map (.field rfl (.string _)))⟩
  | bool value => exact ⟨rfl, decode_tagged rfl rfl (.map (.field rfl ⟨rfl, rfl⟩))⟩
  | null => exact ⟨rfl, decode_tagged rfl rfl .pure⟩
  | star => exact ⟨rfl, decode_tagged rfl rfl .pure⟩
  | param name => exact ⟨rfl, decode_tagged rfl rfl (.map (.field rfl (.string _)))⟩
  | binary operator left right parens ihLeft ihRight =>
    exact ⟨rfl, decode_tagged rfl rfl (.ap (.ap (.ap (.map (.field rfl (.string _)))
      (.field rfl (ihLeft .inner))) (.field rfl (ihRight .inner))) (.fieldOr rfl (.bool _)))⟩
  | unary operator operand parens ih =>
    exact ⟨rfl, decode_tagged rfl rfl (.ap (.ap (.map (.field rfl (.string _))) (.field rfl (ih .inner)))
      (.fieldOr rfl (.bool _)))⟩
  | callBare name =>
    have args : [("type", some (.string "function")), ("name", some (.string name)), ("args", none)].lookup
        "args" = some (none.map argsToJson) := rfl
    exact ⟨rfl, decode_tagged rfl rfl (.map (callRecord_reads rfl args nofun))⟩
  | call name args ih =>
    have inverts : ∀ found ∈ some args, ∀ arg ∈ found, (decode .inner).Inverts toJson arg := by
      rintro _ ⟨⟩ arg member
      exact ih arg member .inner
    refine ⟨by rw [toJson_call]; rfl, ?_⟩
    rw [toJson_call]
    exact decode_tagged rfl rfl (.map (callRecord_reads rfl rfl inverts))
  | aggregate name argument distinct ih =>
    have arguments : (decodeAggregateArgs (decode .inner)).Inverts
        (fun args => .ofMembers [("expr", some args.1.toJson), ("distinct", args.2.map Marker.toJson)])
        (argument, distinct) :=
      Record.Reads.inverts .aggregateArguments
        (.ap (.map (.field rfl (ih .inner))) (.optional rfl fun _ _ => Marker.decode_toJson _)) rfl
    exact ⟨rfl, decode_tagged rfl rfl (.ap (.map (.field rfl (.string _))) (.field rfl arguments))⟩
  | list items ih =>
    have inverts : ∀ item ∈ items, (decode .inner).Inverts toJson item := fun item member =>
      ih item member .inner
    refine ⟨by rw [toJson_list]; rfl, ?_⟩
    rw [toJson_list]
    exact decode_tagged rfl rfl (.map (.fieldOr rfl (.list inverts)))

end Expr

theorem FunctionCall.decode_toJson (function : FunctionCall) : decode.Inverts toJson function := by
  have arguments : ∀ args ∈ function.args,
      (Expr.decodeArgs (Expr.decode .outer)).Inverts Expr.argsToJson args :=
    fun args _ => Expr.decodeArgs_toJson fun arg _ => Expr.decode_toJson .outer arg
  exact Record.Reads.inverts .functionCall (.ap (.map (.field rfl (.string _))) (.optional rfl arguments)) rfl

theorem TableRef.decode_toJson (place : Expr.Place) (ref : TableRef) : (decode place).Inverts toJson ref := by
  have shared : ∀ columns ∈ ref.shared, (Decoder.list Decoder.string).Inverts (.ofList .string) columns :=
    fun columns _ => .list fun column _ => .string column
  exact Record.Reads.inverts .tableRef (.ap (.ap (.ap (.ap (.ap (.map (.optional rfl fun _ _ => .string _))
    (.field rfl (.string _))) (.optional rfl fun _ _ => .string _)) (.optional rfl fun _ _ => .string _))
    (.optional rfl fun condition _ => Expr.decode_toJson place condition)) (.optional rfl shared)) rfl

/-- A list of tables is an array and a single table an object. -/
theorem Tables.decode_toJson (tables : Tables) : decode.Inverts toJson tables := by
  cases tables with
  | many refs =>
    have listed := Decoder.Inverts.list fun (ref : TableRef) (_ : ref ∈ refs) => ref.decode_toJson .inner
    exact ⟨rfl, decode_eq_ok.mpr (Or.inl ⟨refs, listed.2, rfl⟩)⟩
  | one ref =>
    have decoded := ref.decode_toJson .inner
    exact ⟨rfl, decode_eq_ok.mpr (Or.inr ⟨ref, decoded.2, rfl⟩)⟩

theorem OptionValue.decode_toJson (value : OptionValue) : decode.Inverts toJson value := by
  cases value with
  | text text => exact ⟨rfl, rfl⟩
  | number number => exact ⟨rfl, rfl⟩
  | expr expr =>
    have decoded := Expr.decode_toJson .inner expr
    refine ⟨decoded.1, (Decoder.choice_last scalars expr.toJson_isNested).mpr ?_⟩
    exact map_eq_ok.mpr ⟨expr, decoded.2, rfl⟩

theorem TableOption.decode_toJson (option : TableOption) : decode.Inverts toJson option :=
  Record.Reads.inverts .tableOption (.ap (.ap (.map (.field rfl (.string _)))
    (.optional rfl fun _ _ => .string _)) (.field rfl (OptionValue.decode_toJson _))) rfl

theorem SelectColumn.decode_toJson (column : SelectColumn) : decode.Inverts toJson column :=
  Record.Reads.inverts .selectColumn (.ap (.map (.field rfl (Expr.decode_toJson .inner _)))
    (.optional rfl fun _ _ => .string _)) rfl

theorem SelectColumns.decode_toJson (columns : SelectColumns) : decode.Inverts toJson columns := by
  cases columns with
  | star text => exact ⟨rfl, rfl⟩
  | list columns =>
    have listed := Decoder.Inverts.list fun (column : SelectColumn) (_ : column ∈ columns) =>
      column.decode_toJson
    refine ⟨rfl, (Decoder.choice_last scalars rfl).mpr ?_⟩
    exact map_eq_ok.mpr ⟨columns, listed.2, rfl⟩

theorem OrderItem.decode_toJson (item : OrderItem) : decode.Inverts toJson item :=
  Record.Reads.inverts .orderItem (.ap (.map (.field rfl (Expr.decode_toJson .outer _)))
    (.optional rfl fun _ _ => .string _)) rfl

/-- A list of expressions is decoded from an array. -/
theorem Expr.decodeList_toJson (place : Place) (items : List Expr) :
    (Decoder.list (decode place)).Inverts (.ofList toJson) items :=
  .list fun item _ => item.decode_toJson place

theorem Limit.decode_toJson (limit : Limit) : decode.Inverts toJson limit :=
  Record.Reads.inverts .limit (.ap (.map (.optional rfl fun _ _ => .string _))
    (.fieldOr rfl (Expr.decodeList_toJson .outer _))) rfl

theorem Select.record_reads (select : Select) (next : Option Json) :
    record.Reads (select.members ++ [("_next", next)]) select := by
  have ordered : ∀ items ∈ select.orderBy,
      (Decoder.list OrderItem.decode).Inverts (.ofList OrderItem.toJson) items :=
    fun items _ => .list fun item _ => item.decode_toJson
  exact .ap (.ap (.ap (.ap (.ap (.ap (.ap (.ap (.map (.optional rfl fun _ _ => Marker.decode_toJson _))
    (.field rfl (SelectColumns.decode_toJson _))) (.optional rfl fun _ _ => Tables.decode_toJson _))
    (.optional rfl fun _ _ => Expr.decode_toJson .outer _))
    (.optional rfl fun _ _ => Expr.decodeList_toJson .outer _))
    (.optional rfl fun _ _ => Expr.decode_toJson .outer _)) (.optional rfl ordered))
    (.optional rfl fun _ _ => Limit.decode_toJson _)) (.optional rfl fun _ _ => .string _)

namespace Query

theorem toJson_cons (first : Select) (next : Option Query) :
    (cons first next).toJson = .ofMembers (first.members ++ [("_next", next.map toJson)]) := by
  cases next <;> rfl

/-- A select is decoded with the query that follows it. -/
theorem decode_cons (first : Select) (next : Option Query)
    (inverts : ∀ query ∈ next, decode.Inverts toJson query) :
    decode.Inverts toJson (cons first next) := by
  have following : (Record.optional "_next" decode).Reads
      (first.members ++ [("_next", next.map toJson)]) next := .optional rfl inverts
  have reads : (cons <$> Select.record <*> Record.optional "_next" decode).Reads
      (first.members ++ [("_next", next.map toJson)]) (cons first next) :=
    .ap (.map (Select.record_reads first _)) following
  rw [Decoder.Inverts, toJson_cons, decode_eq]
  exact ⟨rfl, reads.ofMembers Node.select.fields_nodup⟩

theorem decode_toJson (query : Query) : decode.Inverts toJson query := by
  obtain ⟨first, later⟩ := query
  induction later generalizing first with
  | nil =>
    refine decode_cons first none ?_
    rintro _ ⟨⟩
  | cons next later ih =>
    refine decode_cons first (some ⟨next, later⟩) ?_
    rintro _ ⟨⟩
    exact ih next

end Query

theorem Decoder.Inverts.natural {value : Nat} (fits : value ≤ 0xffffffffffffffff) :
    Decoder.natural.Inverts .ofNat value := by
  have inRange : (0 : Int) ≤ value ∧ (value : Int) ≤ 0xffffffffffffffff := by omega
  refine ⟨rfl, ?_⟩
  rw [Decoder.natural, Json.ofNat, Decoder.integer, if_pos inRange, Except.map, Int.toNat_natCast]

theorem DataType.decode_toJson {dataType : DataType} (encodable : dataType.IsEncodable) :
    decode.Inverts toJson dataType := by
  have suffixes : ∀ words ∈ dataType.suffixes, (Decoder.list Decoder.string).Inverts (.ofList .string) words :=
    fun words _ => .list fun word _ => .string word
  exact Record.Reads.inverts .dataType (.ap (.ap (.ap (.map (.field rfl (.string _)))
    (.optional rfl fun length member => .natural (encodable.1 length member)))
    (.optional rfl fun scale member => .natural (encodable.2 scale member)))
    (.optional rfl suffixes)) rfl

namespace KeywordValue

theorem record_reads {keyword value : String} {members : List (String × Option Json)} {pair : KeywordValue}
    (first : members.lookup keyword = some (some (.string pair.keyword)))
    (second : members.lookup value = some (some (.string pair.value))) :
    (record keyword value).Reads members pair :=
  .ap (.map (.field first (.string _))) (.field second (.string _))

theorem decode_toJson (pair : KeywordValue) : decode.Inverts (toJson "type" "value") pair :=
  (record_reads rfl rfl).inverts .keywordValue rfl

theorem decodeAction_toJson (pair : KeywordValue) : decodeAction.Inverts (toJson "type" "value") pair :=
  (record_reads rfl rfl).inverts .keywordValue rfl

theorem decodeIndexKind_toJson (pair : KeywordValue) :
    decodeIndexKind.Inverts (toJson "keyword" "type") pair :=
  (record_reads rfl rfl).inverts .indexKind rfl

end KeywordValue

theorem KeywordSetting.decode_toJson (setting : KeywordSetting) : decode.Inverts toJson setting :=
  Record.Reads.inverts .characterSet (.ap (.ap (.map (.field rfl (.string _)))
    (.optional rfl fun _ _ => .string _)) (.field rfl (.string _))) rfl

theorem KeywordExpr.decode_toJson (value : KeywordExpr) : decode.Inverts toJson value :=
  Record.Reads.inverts .defaultValue (.ap (.map (.field rfl (.string _)))
    (.field rfl (Expr.decode_toJson .outer _))) rfl

namespace ExprSetting

theorem record_reads {keyword value : String} {members : List (String × Option Json)}
    {setting : ExprSetting} (first : members.lookup keyword = some (some (.string setting.keyword)))
    (symbol : members.lookup "symbol" = some (setting.symbol.map .string))
    (second : members.lookup value = some (some setting.value.toJson)) :
    (record keyword value).Reads members setting :=
  .ap (.ap (.map (.field first (.string _))) (.optional symbol fun _ _ => .string _))
    (.field second (Expr.decode_toJson .outer _))

theorem decodeComment_toJson (setting : ExprSetting) :
    decodeComment.Inverts (toJson "keyword" "value") setting :=
  (record_reads rfl rfl rfl).inverts .comment rfl

theorem decodeIndexOption_toJson (setting : ExprSetting) :
    decodeIndexOption.Inverts (toJson "type" "expr") setting :=
  (record_reads rfl rfl rfl).inverts .indexOption rfl

theorem decodeOptions_toJson (options : List ExprSetting) :
    (Decoder.list decodeIndexOption).Inverts indexOptionsToJson options :=
  .list fun option _ => option.decodeIndexOption_toJson

end ExprSetting

theorem ReferenceDefinition.decode_toJson (reference : ReferenceDefinition) : decode.Inverts toJson reference :=
  Record.Reads.inverts .reference (.ap (.ap (.map (.field rfl (Tables.decode_toJson _)))
    (.fieldOr rfl (Expr.decodeList_toJson .outer _)))
    (.fieldOr rfl (.list fun action _ => KeywordValue.decodeAction_toJson action))) rfl

theorem GeneratedColumn.decode_toJson (generated : GeneratedColumn) : decode.Inverts toJson generated :=
  Record.Reads.inverts .generated (.ap (.ap (.map (.optional rfl fun _ _ => .string _))
    (.field rfl (Expr.decode_toJson .outer _))) (.optional rfl fun _ _ => .string _)) rfl

/-- An index is decoded from any entries in which its fields are found. -/
theorem IndexDefinition.decode_object {index : IndexDefinition} {entries : List (String × Json)}
    (found : ∀ name ∈ Node.index.fields.map Field.name,
      entries.lookup name = (index.members.lookup name).join) :
    decode (.object entries) = .ok index := by
  refine Record.Reads.ofEntries ?_ found
  exact .ap (.ap (.ap (.ap (.map (.field rfl (.string _))) (.optional rfl fun _ _ => .string _))
    (.optional rfl fun _ _ => KeywordValue.decodeIndexKind_toJson _))
    (.fieldOr rfl (Expr.decodeList_toJson .outer _)))
    (.optional rfl fun _ _ => ExprSetting.decodeOptions_toJson _)

namespace ConstraintDefinition

/-- A constraint is decoded from any entries in which its fields are found. -/
theorem decode_object {constraint : ConstraintDefinition} {entries : List (String × Json)}
    (found : ∀ name ∈ Node.constraint.fields.map Field.name,
      entries.lookup name = (constraint.members.lookup name).join) :
    decode (.object entries) = .ok constraint := by
  refine Record.Reads.ofEntries ?_ found
  exact .ap (.ap (.ap (.ap (.ap (.ap (.ap (.map (.optional rfl fun _ _ => .string _))
    (.optional rfl fun _ _ => .string _)) (.field rfl (.string _))) (.optional rfl fun _ _ => .string _))
    (.optional rfl fun _ _ => KeywordValue.decodeIndexKind_toJson _))
    (.fieldOr rfl (Expr.decodeList_toJson .outer _)))
    (.optional rfl fun _ _ => ReferenceDefinition.decode_toJson _))
    (.optional rfl fun _ _ => ExprSetting.decodeOptions_toJson _)

theorem decode_toJson (constraint : ConstraintDefinition) : decode.Inverts toJson constraint := by
  have distinct : (constraint.members.map Prod.fst).Nodup := Node.constraint.fields_nodup
  exact ⟨rfl, decode_object fun name _ => Json.lookup_ofMembers distinct name⟩

end ConstraintDefinition

end SqlDdl
