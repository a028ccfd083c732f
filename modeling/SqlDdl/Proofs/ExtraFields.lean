import SqlDdl.Proofs.Failures
import SqlDdl.Proofs.KeptDefinition
import SqlDdl.Proofs.Reads

/-! The entries of a column that it does not declare. None of them has a rendering, and so the first one that
is not `null` is reported. -/

namespace SqlDdl

theorem Json.lookup_filter {name : String} {wanted : String × Json → Bool}
    (kept : ∀ value, wanted (name, value) = true) (entries : List (String × Json)) :
    (entries.filter wanted).lookup name = entries.lookup name := by
  induction entries with
  | nil => rfl
  | cons head entries ih =>
    obtain ⟨key, value⟩ := head
    rw [List.filter_cons, lookup_cons_eq_ite]
    by_cases same : name = key
    · rw [if_pos same, if_pos (same ▸ kept value), lookup_cons_eq_ite, if_pos same]
    · rw [if_neg same]
      split
      · rw [lookup_cons_eq_ite, if_neg same, ih]
      · exact ih

/-- What is found under distinct keys does not depend on their order. -/
theorem Json.lookup_perm {entries others : List (String × Json)} (distinct : (entries.map Prod.fst).Nodup)
    (reordered : others.Perm entries) (name : String) : others.lookup name = entries.lookup name := by
  have again := (reordered.map Prod.fst).nodup_iff.mpr distinct
  rw [← lookup_sortEntries again, ← lookup_sortEntries distinct, sortEntries_congr distinct reordered]

namespace ColumnDefinition

/-- The fields that a column declares. -/
def declaredFields : List String :=
  ["column", "definition", "nullable", "default_val", "auto_increment", "unique", "primary_key", "collate",
    "check", "generated", "character_set", "column_format", "storage", "comment", "reference_definition"]

theorem names_record : record.names = declaredFields := rfl

/-- Whether one of the entries is no field of a column and not `null`. The entry that tells the kind of the
definition does not count. -/
def Fills (entries : List (String × Json)) (key : String) : Prop :=
  key ≠ "resource" ∧ key ∉ declaredFields ∧ ∃ value, (key, value) ∈ entries ∧ value ≠ .null

/-- The entries without those that are `null` and no fields of a column. -/
def withoutNulls (entries : List (String × Json)) : List (String × Json) :=
  entries.filter fun entry =>
    entry.1 == "resource" || declaredFields.contains entry.1 || !entry.2.isNull

variable {entries others : List (String × Json)} {column : ColumnDefinition}

/-- A column consists of what is found under its declared fields, and of its other entries. -/
theorem decode_of_lookup_eq (same : ∀ name ∈ declaredFields, others.lookup name = entries.lookup name)
    (decoded : decode (.object entries) = .ok column) :
    column.extra = .ofEntries (undeclared entries) ∧
      decode (.object others) = .ok { column with extra := .ofEntries (undeclared others) } := by
  have keeps : record.Keeps .fieldsOnly Node.column.fields _ := record_keeps
  obtain ⟨build, found, rfl⟩ := decode_object.mp decoded
  obtain ⟨build', found', changed⟩ := keeps.ofEntries (fun field declared => by
    have listed : field.name ∈ declaredFields := List.mem_map_of_mem declared
    rw [same field.name listed]
    exact .same _) found
  obtain ⟨own, replaced⟩ := changed (.ofEntries (undeclared entries)) (.ofEntries (undeclared others))
  exact ⟨own, decode_object.mpr ⟨build', found', replaced⟩⟩

theorem undeclared_perm (reordered : others.Perm entries) : (undeclared others).Perm (undeclared entries) :=
  reordered.filter _

theorem undeclared_nodup (distinct : (entries.map Prod.fst).Nodup) :
    ((undeclared entries).map Prod.fst).Nodup :=
  distinct.sublist (List.filter_sublist.map Prod.fst)

/-- The order of the entries makes no difference. -/
theorem decode_perm (distinct : (entries.map Prod.fst).Nodup) (reordered : others.Perm entries)
    (decoded : decode (.object entries) = .ok column) : decode (.object others) = .ok column := by
  obtain ⟨own, decodedAgain⟩ :=
    decode_of_lookup_eq (fun name _ => Json.lookup_perm distinct reordered name) decoded
  have extra : Json.Fields.ofEntries (undeclared others) = column.extra := by
    rw [own]
    simp only [Json.Fields.ofEntries,
      Json.sortEntries_congr (undeclared_nodup distinct) (undeclared_perm reordered)]
  rw [decodedAgain, extra]

/-- A column keeps the entries that it does not declare, whatever their values are. -/
theorem hasUnsupported_iff (distinct : (entries.map Prod.fst).Nodup)
    (decoded : decode (.object entries) = .ok column) (key : String) :
    column.HasUnsupported key ↔ Fills entries key := by
  obtain ⟨own, -⟩ := decode_of_lookup_eq (fun _ _ => rfl) decoded
  have listed : ∀ value, (key, value) ∈ column.extra.entries ↔
      key ∉ declaredFields ∧ (key, value) ∈ entries := fun value => by
    have sorted : (key, value) ∈ Json.sortEntries (undeclared entries) ↔ (key, value) ∈ undeclared entries :=
      (Json.sortEntries_perm (undeclared_nodup distinct)).mem_iff
    rw [own, Json.Fields.ofEntries, sorted, undeclared, List.mem_filter, names_record, Bool.not_eq_true',
      ← Bool.not_eq_true, List.contains_iff_mem]
    exact and_comm
  simp only [HasUnsupported, Fills, listed, and_assoc, exists_and_left]

theorem fills_withoutNulls {key : String} : Fills (withoutNulls entries) key ↔ Fills entries key := by
  refine and_congr_right fun _ => and_congr_right fun _ => exists_congr fun value => ?_
  refine and_congr_left fun filled => (List.mem_filter.trans (and_iff_left ?_))
  have notNull : value.isNull = false := Bool.eq_false_iff.mpr fun isNull => filled (Json.isNull_iff.mp isNull)
  rw [notNull, Bool.not_false, Bool.or_true]

theorem unsupportedField?_congr {first second : ColumnDefinition}
    (same : ∀ key, second.HasUnsupported key ↔ first.HasUnsupported key) :
    second.unsupportedField? = first.unsupportedField? := by
  refine Option.ext fun key => ?_
  rw [unsupportedField?_eq_some_iff, unsupportedField?_eq_some_iff]
  simp only [same]

theorem unsupportedField?_eq_none_iff :
    column.unsupportedField? = none ↔ ∀ key, ¬column.HasUnsupported key := by
  rw [unsupportedField?, Option.map_eq_none_iff, List.find?_eq_none]
  constructor
  · rintro sound key ⟨other, value, member, filled⟩
    have notNull : value.isNull = false :=
      Bool.eq_false_iff.mpr fun isNull => filled (Json.isNull_iff.mp isNull)
    refine sound (key, value) member ?_
    rw [notNull, Bool.not_false, Bool.and_true, bne_iff_ne]
    exact other
  · intro none entry member found
    obtain ⟨other, notNull⟩ := Bool.and_eq_true _ _ ▸ found
    refine none entry.1 ⟨bne_iff_ne.mp other, entry.2, member, fun isNull => ?_⟩
    rw [isNull] at notNull
    cases notNull

theorem exists_tokens_iff {config : Config} :
    (∃ tokens, column.tokens config = .ok tokens) ↔ ∀ key, ¬column.HasUnsupported key := by
  rw [← unsupportedField?_eq_none_iff, tokens]
  cases column.unsupportedField? with
  | none => exact iff_of_true ⟨_, rfl⟩ rfl
  | some field =>
    refine iff_of_false ?_ (Option.some_ne_none field)
    rintro ⟨_, ⟨⟩⟩

theorem forall_not_fills_iff : (∀ key, ¬Fills entries key) ↔
    ∀ key value, (key, value) ∈ entries → key ≠ "resource" → key ∉ declaredFields → value = .null := by
  constructor
  · intro none key value member named undeclared
    refine Classical.byContradiction fun filled => none key ?_
    exact ⟨named, undeclared, value, member, filled⟩
  · rintro nulls key ⟨named, undeclared, value, member, filled⟩
    exact filled (nulls key value member named undeclared)

/-- The entries that are `null` and not declared are of no use. -/
theorem decode_withoutNulls (distinct : (entries.map Prod.fst).Nodup)
    (decoded : decode (.object entries) = .ok column) (config : Config) :
    ∃ cleaned, decode (.object (withoutNulls entries)) = .ok cleaned ∧
      cleaned.tokens config = column.tokens config := by
  have found : ∀ name ∈ declaredFields, (withoutNulls entries).lookup name = entries.lookup name :=
    fun name declared => Json.lookup_filter (fun value => by
      rw [List.contains_iff_mem.mpr declared, Bool.or_true, Bool.true_or]) entries
  obtain ⟨-, cleaned⟩ := decode_of_lookup_eq found decoded
  refine ⟨_, cleaned, ?_⟩
  have kept : ((withoutNulls entries).map Prod.fst).Nodup :=
    distinct.sublist (List.filter_sublist.map Prod.fst)
  have field := unsupportedField?_congr fun key =>
    ((hasUnsupported_iff kept cleaned key).trans fills_withoutNulls).trans
      (hasUnsupported_iff distinct decoded key).symm
  rw [tokens, tokens, field]
  rfl

end ColumnDefinition

namespace Definition

open ColumnDefinition (declaredFields Fills withoutNulls)

theorem failsWith_column_iff {value : ColumnDefinition} {cause : Error} :
    (column value).FailsWith cause ↔ ∃ key, cause = .unsupported "CREATE TABLE" "column field" key ∧
      value.HasUnsupported key ∧ ∀ other, value.HasUnsupported other → key ≤ other := by
  constructor
  · rintro (_ | ⟨present, first⟩)
    exact ⟨_, rfl, present, first⟩
  · rintro ⟨key, rfl, present, first⟩
    exact .field present first

/-- No field of a column is passed over. Its definition has tokens exactly if all entries are `null` that are
no fields of a column; else the first of these entries that is not is reported, in the order of code points.
Neither the order in which the entries are given nor those that are `null` make any difference. As in every
object that is read, no key is there twice. -/
theorem undeclared_reported {entries : List (String × Json)} {definition : Definition}
    (distinct : (entries.map Prod.fst).Nodup)
    (kind : (Json.object entries).get? "resource" = some (.string "column"))
    (decoded : decode (.object entries) = .ok definition) (config : Config) :
    ((∃ tokens, definition.tokens config = .ok tokens) ↔
      ∀ key value, (key, value) ∈ entries → key ≠ "resource" → key ∉ declaredFields → value = .null) ∧
    (∀ cause, definition.tokens config = .error cause ↔
      ∃ key, cause = .unsupported "CREATE TABLE" "column field" key ∧ Fills entries key ∧
        ∀ other, Fills entries other → key ≤ other) ∧
    (∃ cleaned, decode (.object (withoutNulls entries)) = .ok cleaned ∧
      cleaned.tokens config = definition.tokens config) ∧
    ∀ others, others.Perm entries → decode (.object others) = .ok definition := by
  rw [decode_column kind] at decoded
  obtain ⟨value, found, rfl⟩ := map_eq_ok.mp decoded
  have fills := ColumnDefinition.hasUnsupported_iff distinct found
  refine ⟨?_, fun cause => ?_, ?_, fun others reordered => ?_⟩
  · refine ColumnDefinition.exists_tokens_iff.trans ?_
    rw [← ColumnDefinition.forall_not_fills_iff]
    simp only [fills]
  · rw [tokens_eq_error_iff, failsWith_column_iff]
    simp only [fills]
  · obtain ⟨cleaned, decodedAgain, same⟩ := ColumnDefinition.decode_withoutNulls distinct found config
    have kindAgain : (Json.object (withoutNulls entries)).get? "resource" = some (.string "column") :=
      (Json.lookup_filter (fun _ => rfl) entries).trans kind
    exact ⟨column cleaned, by rw [decode_column kindAgain, decodedAgain]; rfl, same⟩
  · have kindAgain : (Json.object others).get? "resource" = some (.string "column") :=
      (Json.lookup_perm distinct reordered "resource").trans kind
    rw [decode_column kindAgain, ColumnDefinition.decode_perm distinct reordered found]
    rfl

/-- A column with two fields that have no rendering, and one that is `null`. -/
def faultyEntries : List (String × Json) :=
  [("virtual", .bool true), ("resource", .string "column"),
    ("column", .object [("table", .null), ("column", .string "b")]), ("hidden", .string ""),
    ("check_name", .null), ("definition", .object [("dataType", .string "int")])]

/-- A column with two entries that are no fields of a column. Both are `null`. -/
def soundEntries : List (String × Json) :=
  [("check_name", .null), ("resource", .string "column"),
    ("column", .object [("table", .null), ("column", .string "b")]), ("hidden", .null),
    ("definition", .object [("dataType", .string "int")])]

theorem faultyEntries_reported :
    (((faultyEntries.map Prod.fst).Nodup ∧
        (Json.object faultyEntries).get? "resource" = some (.string "column")) ∧
      ∃ definition, decode (.object faultyEntries) = .ok definition ∧
        Fills faultyEntries "hidden" ∧ (∀ other, Fills faultyEntries other → "hidden" ≤ other) ∧
        (∃ cleaned, decode (.object (withoutNulls faultyEntries)) = .ok cleaned ∧
          cleaned.tokens ⟨.ansi, .always⟩ = definition.tokens ⟨.ansi, .always⟩) ∧
        decode (.object faultyEntries.reverse) = .ok definition) ∧
    (((soundEntries.map Prod.fst).Nodup ∧
        (Json.object soundEntries).get? "resource" = some (.string "column")) ∧
      (∀ key value, (key, value) ∈ soundEntries → key ≠ "resource" → key ∉ declaredFields →
        value = .null) ∧
      ∃ definition tokens cleaned, decode (.object soundEntries) = .ok definition ∧
        definition.tokens ⟨.ansi, .always⟩ = .ok tokens ∧ tokens.join = "\"b\" INT" ∧
        (withoutNulls soundEntries).length + 2 = soundEntries.length ∧
        decode (.object (withoutNulls soundEntries)) = .ok cleaned ∧
        cleaned.tokens ⟨.ansi, .always⟩ = .ok tokens ∧
        decode (.object soundEntries.reverse) = .ok definition) := by
  constructor
  · have distinct : (faultyEntries.map Prod.fst).Nodup := by decide +kernel
    have kind : (Json.object faultyEntries).get? "resource" = some (.string "column") := rfl
    obtain ⟨definition, decoded, failed⟩ : ∃ definition, decode (.object faultyEntries) = .ok definition ∧
        definition.tokens ⟨.ansi, .always⟩ = .error (.unsupported "CREATE TABLE" "column field" "hidden") :=
      ⟨_, rfl, rfl⟩
    obtain ⟨-, reported, cleaned, reordered⟩ :=
      undeclared_reported distinct kind decoded ⟨.ansi, .always⟩
    obtain ⟨key, same, fills, least⟩ := (reported _).mp failed
    cases same
    exact ⟨⟨distinct, kind⟩, definition, decoded, fills, least, cleaned,
      reordered _ (List.reverse_perm _)⟩
  · have distinct : (soundEntries.map Prod.fst).Nodup := by decide +kernel
    have kind : (Json.object soundEntries).get? "resource" = some (.string "column") := rfl
    obtain ⟨definition, tokens, decoded, rendered, text⟩ : ∃ definition tokens,
        decode (.object soundEntries) = .ok definition ∧
          definition.tokens ⟨.ansi, .always⟩ = .ok tokens ∧ tokens.join = "\"b\" INT" :=
      ⟨_, _, rfl, rfl, by decide +kernel⟩
    obtain ⟨sound, -, ⟨cleaned, decodedAgain, same⟩, reordered⟩ :=
      undeclared_reported distinct kind decoded ⟨.ansi, .always⟩
    exact ⟨⟨distinct, kind⟩, sound.mp ⟨tokens, rendered⟩, definition, tokens, cleaned, decoded, rendered,
      text, rfl, decodedAgain, same.trans rendered, reordered _ (List.reverse_perm _)⟩

end Definition

end SqlDdl
