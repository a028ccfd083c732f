import SqlDdl.Expr.DecodeLemmas
import SqlDdl.Proofs.Keeps
import SqlDdl.Select.DecodeLemmas

/-! Insertions make no difference to expressions, tables, queries and the parts of definitions. -/

namespace SqlDdl

variable {rule : Rule}

theorem ColumnRef.record_keeps : record.Keeps rule Node.columnRef.fields Eq :=
  .ap (.map (.optional .leaf)) (.field .leaf)

theorem ColumnRef.decode_keeps : decode.Keeps rule (.node .columnRef) Eq :=
  record_keeps.decoder rfl

namespace Expr

variable {inner : Decoder Expr}

theorem decodeArgs_keeps (keeps : inner.Keeps rule (.choice .expr) Eq) :
    (decodeArgs inner).Keeps rule (.node .arguments) Eq :=
  Record.Keeps.decoder (.fieldOr keeps.list) rfl

theorem decodeAggregateArgs_keeps (keeps : inner.Keeps rule (.choice .expr) Eq) :
    (decodeAggregateArgs inner).Keeps rule (.node .aggregateArguments) Eq :=
  Record.Keeps.decoder (.ap (.map (.field keeps)) (.optional .leaf)) rfl

theorem callRecord_keeps (keeps : inner.Keeps rule (.choice .expr) Eq) :
    (callRecord inner).Keeps rule Node.functionCall.fields Eq :=
  .ap (.map (.field .leaf)) (.optional (decodeArgs_keeps keeps))

/-- The fields of an expression are kept if the expressions in it are. -/
theorem record_keeps (keeps : inner.Keeps rule (.choice .expr) Eq) (form : Form) :
    (record inner form).Keeps rule (Node.formFields form) Eq := by
  cases form with
  | column => exact .map ColumnRef.record_keeps
  | null => exact .pure
  | star => exact .pure
  | binary =>
    exact .ap (.ap (.ap (.map (.field .leaf)) (.field keeps)) (.field keeps)) (.fieldOr .leaf)
  | unary => exact .ap (.ap (.map (.field .leaf)) (.field keeps)) (.fieldOr .leaf)
  | call => exact .map (callRecord_keeps keeps)
  | aggregate => exact .ap (.map (.field .leaf)) (.field (decodeAggregateArgs_keeps keeps))
  | list => exact .map (.fieldOr keeps.list)
  | _ => exact .map (.field .leaf)

theorem Form.decode_inner {place : Place} {tag : Json} {form : Form}
    (decoded : decode place tag = .ok form) : decode .inner tag = .ok form := by
  cases place with
  | inner => exact decoded
  | outer =>
    cases tag with
    | string => exact decoded
    | _ => cases decoded

/-- Nothing is inserted into the tag of an expression. -/
theorem eq_of_kept_tag {tag tag' : Option Json}
    (kept : (Field.strict "type" .leaf).Kept rule tag tag') : tag' = tag := by
  cases kept with
  | same => rfl
  | null isOptional => cases isOptional
  | inner inner => cases inner

theorem name_ne_tag {form : Form} {field : Field} (declared : field ∈ Node.formFields form) :
    (field.name == "type") = false := by
  have apart := (List.nodup_cons.mp (Node.expr form).fields_nodup).1
  exact beq_eq_false_iff_ne.mpr fun same => apart (List.mem_map.mpr ⟨field, declared, same⟩)

theorem decodeLayer_object {place : Place} {entries : List (String × Json)} {value : Expr} :
    decodeLayer inner place (.object entries) = .ok value ↔
      ∃ tag form, entries.lookup "type" = some tag ∧ Form.decode place tag = .ok form ∧
        (record inner form).ofEntries entries = .ok value := by
  rw [decodeLayer, bind_eq_ok]
  constructor
  · rintro ⟨tag, found, rest⟩
    obtain ⟨form, decoded, fields⟩ := bind_eq_ok.mp rest
    cases shape : entries.lookup "type" with
    | none =>
      rw [shape] at found
      cases found
    | some other =>
      rw [shape] at found
      cases found
      exact ⟨tag, form, rfl, decoded, fields⟩
  · rintro ⟨tag, form, found, decoded, fields⟩
    exact ⟨tag, by rw [found]; rfl, bind_eq_ok.mpr ⟨form, decoded, fields⟩⟩

theorem decodeLayer_array {place : Place} {items : List Json} {value : Expr} :
    decodeLayer inner place (.array items) = .ok value ↔
      ∃ tag rest form, items = tag :: rest ∧ Form.decode place tag = .ok form ∧
        (record inner form).ofItems rest = .ok value := by
  cases items with
  | nil => exact iff_of_false (fun same => nomatch same) fun ⟨_, _, _, same, _⟩ => nomatch same
  | cons tag rest =>
    rw [decodeLayer, bind_eq_ok]
    constructor
    · rintro ⟨form, decoded, fields⟩
      exact ⟨tag, rest, form, rfl, decoded, fields⟩
    · rintro ⟨_, _, form, same, decoded, fields⟩
      cases same
      exact ⟨form, decoded, fields⟩

/-- An expression is kept if the expressions in it are. -/
theorem decodeLayer_keeps {place : Place} (keeps : inner.Keeps rule (.choice .expr) Eq) :
    (decodeLayer inner place).Keeps rule (.choice .expr) Eq := by
  intro json json' value insertion decoded
  cases insertion with
  | choice insertion =>
    rcases insertion.nested with ⟨entries, _, rfl, _⟩ | ⟨items, _, rfl, _⟩
    · obtain ⟨tag, form, found, tagged, fields⟩ := decodeLayer_object.mp decoded
      have shape : Choice.expr.shape (.object entries) = .node (.expr form) := by
        simp only [Choice.shape, Json.form?, found, Option.bind_some, Form.decode_inner tagged]
        rfl
      rw [shape] at insertion
      obtain ⟨entries', rfl, kept⟩ := insertion.kept_entries
      obtain ⟨value', found', same⟩ := (record_keeps keeps form).ofEntries
        (fun field member => kept field (List.mem_cons_of_mem _ member)) fields
      have found := (eq_of_kept_tag (kept _ List.mem_cons_self)).trans found
      exact ⟨value', decodeLayer_object.mpr ⟨tag, form, found, tagged, found'⟩, same⟩
    · obtain ⟨tag, rest, form, rfl, tagged, fields⟩ := decodeLayer_array.mp decoded
      have shape : Choice.expr.shape (.array (tag :: rest)) = .node (.expr form) := by
        simp only [Choice.shape, Json.form?, Option.bind_some, Form.decode_inner tagged]
        rfl
      rw [shape] at insertion
      obtain ⟨items', rfl, length, kept⟩ := insertion.kept_items
      cases items' with
      | nil => cases length
      | cons tag' rest' =>
        obtain rfl : tag' = tag := Option.some.inj (eq_of_kept_tag (kept _ List.mem_cons_self))
        have later : ∀ field ∈ Node.formFields form, field.Kept rule
            ((((Node.formFields form).map Field.name).zip rest).lookup field.name)
            ((((Node.formFields form).map Field.name).zip rest').lookup field.name) := by
          intro field member
          have kept := kept field (List.mem_cons_of_mem _ member)
          simp only [Node.fields, Field.strict, List.map_cons, List.zip_cons_cons, List.lookup_cons,
            name_ne_tag member] at kept
          exact kept
        obtain ⟨value', found, same⟩ :=
          (record_keeps keeps form).ofItems (Nat.succ.inj length) later fields
        exact ⟨value', decodeLayer_array.mpr ⟨tag', rest', form, rfl, tagged, found⟩, same⟩

theorem decode_keeps (place : Place) : (decode place).Keeps rule (.choice .expr) Eq :=
  Decoder.Keeps.of_layers isLayered (fun _ keeps _ => decodeLayer_keeps (keeps .inner)) place

end Expr

theorem FunctionCall.decode_keeps : decode.Keeps rule (.node .functionCall) Eq :=
  Record.Keeps.decoder (.ap (.map (.field .leaf)) (.optional (Expr.decodeArgs_keeps (Expr.decode_keeps _)))) rfl

namespace TableRef

theorem record_keeps (place : Expr.Place) : (record place).Keeps rule Node.tableRef.fields Eq :=
  .ap (.ap (.ap (.ap (.ap (.map (.optional .leaf)) (.field .leaf)) (.optional .leaf)) (.optional .leaf))
    (.optional (Expr.decode_keeps place))) (.optional (Decoder.Keeps.list .leaf))

theorem decode_keeps (place : Expr.Place) : (decode place).Keeps rule (.node .tableRef) Eq :=
  (record_keeps place).decoder rfl

end TableRef

namespace Tables

/-- The first field of a table is a text or null. -/
theorem db_of_decode {place : Expr.Place} {first : Json} {rest : List Json} {ref : TableRef}
    (decoded : TableRef.decode place (.array (first :: rest)) = .ok ref) :
    ∃ db, Decoder.nullable Decoder.string first = .ok db := by
  obtain ⟨read, _⟩ := Record.ofItems_eq_ok.mp decoded
  obtain ⟨_, _, read, _⟩ := Record.ap_eq_ok.mp read
  obtain ⟨_, _, read, _⟩ := Record.ap_eq_ok.mp read
  obtain ⟨_, _, read, _⟩ := Record.ap_eq_ok.mp read
  obtain ⟨_, _, read, _⟩ := Record.ap_eq_ok.mp read
  obtain ⟨_, _, read, _⟩ := Record.ap_eq_ok.mp read
  obtain ⟨db, read, _⟩ := map_eq_ok.mp read
  exact ⟨db, mapError_eq_ok.mp read⟩

theorem shape_of_decode {place : Expr.Place} {json : Json} {ref : TableRef}
    (decoded : TableRef.decode place json = .ok ref) : Choice.tables.shape json = .node .tableRef := by
  cases json with
  | array items =>
    cases items with
    | nil => rfl
    | cons first rest =>
      obtain ⟨db, read⟩ := db_of_decode decoded
      cases first with
      | array => cases read
      | object => cases read
      | _ => rfl
  | _ => rfl

theorem shape_of_decodeList {place : Expr.Place} {json : Json} {refs : List TableRef}
    (decoded : Decoder.list (TableRef.decode place) json = .ok refs) :
    json = .array [] ∨ Choice.tables.shape json = .list (.node .tableRef) := by
  cases json with
  | array items =>
    cases items with
    | nil => exact Or.inl rfl
    | cons first rest =>
      obtain ⟨ref, _, found, _⟩ := mapM_cons_eq_ok.mp decoded
      cases first with
      | array => exact Or.inr rfl
      | object => exact Or.inr rfl
      | _ => cases found
  | _ => cases decoded

/-- A list of tables is no single table. -/
theorem decode_eq_ok {json : Json} {tables : Tables} :
    decode json = .ok tables ↔
      (∃ refs, Decoder.list (TableRef.decode .inner) json = .ok refs ∧ many refs = tables) ∨
        ∃ ref, TableRef.decode .inner json = .ok ref ∧ one ref = tables := by
  rw [decode, Decoder.choice_pair, map_eq_ok, map_eq_ok]
  refine or_congr_right (and_iff_right_of_imp ?_)
  rintro ⟨ref, found, _⟩
  cases listed : Decoder.list (TableRef.decode .inner) json with
  | error => rfl
  | ok refs =>
    rcases shape_of_decodeList listed with rfl | shape
    · cases found
    · rw [shape_of_decode found] at shape
      cases shape

theorem decode_keeps : decode.Keeps rule (.choice .tables) Eq := by
  intro json json' tables insertion decoded
  cases insertion with
  | choice insertion =>
    rcases decode_eq_ok.mp decoded with ⟨refs, found, rfl⟩ | ⟨ref, found, rfl⟩
    · rcases shape_of_decodeList found with rfl | shape
      · -- There is no table into which something could be inserted.
        obtain ⟨items', rfl, length, _⟩ := insertion.kept_items
        obtain rfl := List.eq_nil_of_length_eq_zero length
        exact ⟨_, decoded, rfl⟩
      · rw [shape] at insertion
        obtain ⟨_, found', rfl⟩ := (TableRef.decode_keeps .inner).list _ _ _ insertion found
        exact ⟨_, decode_eq_ok.mpr (Or.inl ⟨refs, found', rfl⟩), rfl⟩
    · rw [shape_of_decode found] at insertion
      obtain ⟨_, found', rfl⟩ := TableRef.decode_keeps .inner _ _ _ insertion found
      exact ⟨_, decode_eq_ok.mpr (Or.inr ⟨ref, found', rfl⟩), rfl⟩

end Tables

theorem OptionValue.scalars : ∀ decoder ∈ ([fun json => (Decoder.string json).map text,
    fun json => (Decoder.number json).map number] : List (Decoder OptionValue)), decoder.IsScalar := by
  intro decoder member
  simp only [List.mem_cons, List.not_mem_nil, or_false] at member
  rcases member with rfl | rfl <;> exact ⟨fun _ => rfl, fun _ => rfl⟩

theorem OptionValue.decode_keeps : decode.Keeps rule (.choice .expr) Eq :=
  Decoder.Keeps.choice [_, _] scalars (Decoder.Keeps.mapped (Expr.decode_keeps .inner))

theorem TableOption.decode_keeps : decode.Keeps rule (.node .tableOption) Eq :=
  Record.Keeps.decoder (.ap (.ap (.map (.field .leaf)) (.optional .leaf)) (.field OptionValue.decode_keeps)) rfl

theorem SelectColumn.decode_keeps : decode.Keeps rule (.node .selectColumn) Eq :=
  Record.Keeps.decoder (.ap (.map (.field (Expr.decode_keeps .inner))) (.optional .leaf)) rfl

theorem SelectColumns.scalars :
    ∀ decoder ∈ ([fun json => (Decoder.string json).map star] : List (Decoder SelectColumns)),
      decoder.IsScalar := by
  intro decoder member
  obtain rfl := List.mem_singleton.mp member
  exact ⟨fun _ => rfl, fun _ => rfl⟩

theorem SelectColumns.decode_keeps : decode.Keeps rule (.list (.node .selectColumn)) Eq :=
  Decoder.Keeps.choice [_] scalars (Decoder.Keeps.mapped SelectColumn.decode_keeps.list)

theorem OrderItem.decode_keeps : decode.Keeps rule (.node .orderItem) Eq :=
  Record.Keeps.decoder (.ap (.map (.field (Expr.decode_keeps .outer))) (.optional .leaf)) rfl

theorem Limit.decode_keeps : decode.Keeps rule (.node .limit) Eq :=
  Record.Keeps.decoder (.ap (.map (.optional .leaf)) (.fieldOr (Expr.decode_keeps .outer).list)) rfl

namespace Query

theorem decodeLayer_keeps {next : Decoder Query} (keeps : next.Keeps rule (.node .select) Eq) :
    (decodeLayer next).Keeps rule (.node .select) Eq := by
  have expr : (Expr.decode .outer).Keeps rule (.choice .expr) Eq := Expr.decode_keeps .outer
  have select : Select.record.Keeps rule _ Eq :=
    .ap (.ap (.ap (.ap (.ap (.ap (.ap (.ap (.map (.optional .leaf)) (.field SelectColumns.decode_keeps))
      (.optional Tables.decode_keeps)) (.optional expr)) (.optional expr.list)) (.optional expr))
      (.optional OrderItem.decode_keeps.list)) (.optional Limit.decode_keeps)) (.optional .leaf)
  exact Record.Keeps.decoder (.ap (.map select) (.optional keeps)) rfl

theorem decode_keeps : decode.Keeps rule (.node .select) Eq :=
  Decoder.Keeps.of_layers isLayered (fun _ keeps _ => decodeLayer_keeps (keeps ())) ()

end Query

end SqlDdl
