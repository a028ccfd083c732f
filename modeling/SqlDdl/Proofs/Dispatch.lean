import SqlDdl.Proofs.KindTexts
import SqlDdl.Proofs.Respects
import SqlDdl.Proofs.TriggerEvents

/-! What is decoded as a table or a trigger has the keyword of one, in whatever letter case it is spelled. -/

namespace SqlDdl

variable {α β γ : Type}

theorem Decoder.string_eq_ok {json : Json} {text : String} : string json = .ok text ↔ json = .string text := by
  cases json with
  | string value =>
    exact ⟨fun same => congrArg Json.string (Except.ok.inj same), fun same => congrArg _ (Json.string.inj same)⟩
  | _ => exact iff_of_false (fun same => nomatch same) fun same => nomatch same

namespace Record

variable {byName : Bool} {values : String → Option Json}

/-- What holds of a node whatever one of its fields is holds of it with the value that is read. -/
theorem of_ap {function : Record (α → β)} {argument : Record α} {holds : β → Prop}
    (each : ∀ f, function.read byName values = .ok f → ∀ value, holds (f value)) :
    ∀ result, (function <*> argument).read byName values = .ok result → holds result := by
  intro result read
  obtain ⟨f, value, found, -, rfl⟩ := ap_eq_ok.mp read
  exact each f found value

theorem field_eq_ok {name : String} {decoder : Decoder α} {value : α} :
    (field name decoder).read byName values = .ok value ↔
      ∃ json, values name = some json ∧ decoder json = .ok value := by
  simp only [field]
  cases values name with
  | none => simp only [reduceCtorEq, false_and, exists_false]
  | some json => simp only [mapError_eq_ok, Option.some.injEq, exists_eq_left']

/-- The third field of a statement is a text. -/
theorem of_third {build : α → β → String → γ} {first : Record α} {second : Record β} {name : String}
    {holds : γ → Prop}
    (each : ∀ head marker text, values name = some (.string text) → holds (build head marker text)) :
    ∀ result, (build <$> first <*> second <*> field name Decoder.string).read byName values = .ok result →
      holds result := by
  intro result read
  obtain ⟨_, text, front, found, rfl⟩ := ap_eq_ok.mp read
  obtain ⟨_, marker, before, -, rfl⟩ := ap_eq_ok.mp front
  obtain ⟨head, -, rfl⟩ := map_eq_ok.mp before
  obtain ⟨_, present, same⟩ := field_eq_ok.mp found
  obtain rfl := Decoder.string_eq_ok.mp same
  exact each head marker text present

/-- Where an entry is a text, it is the one that the node keeps of it. -/
theorem text_of_decoder {typeName key text : String} {record : Record α} {own : α → String}
    (tells : ∀ {values : String → Option Json} value, record.read true values = .ok value →
      values key = some (.string (own value)))
    {json : Json} {value : α} (found : json.get? key = some (.string text))
    (decoded : record.decoder typeName json = .ok value) : text = own value := by
  cases json with
  | object entries =>
    have kept : entries.lookup key = some (.string (own value)) := tells value (mapError_eq_ok.mp decoded)
    exact Json.string.inj (Option.some.inj (found.symm.trans kept))
  | _ => cases found

end Record

open Record (of_ap of_third)

theorem TableStatement.keyword_of_decode {json : Json} {table : TableStatement} {keyword : String}
    (found : json.get? "keyword" = some (.string keyword)) (decoded : decode json = .ok table) :
    keyword = table.keyword :=
  Record.text_of_decoder (of_ap (of_ap (of_ap (of_ap (of_ap (of_ap (of_ap (of_ap (of_third
    fun _ _ _ present _ _ _ _ _ _ _ _ => present))))))))) found decoded

theorem TriggerStatement.keyword_of_decode {json : Json} {trigger : TriggerStatement} {keyword : String}
    (found : json.get? "keyword" = some (.string keyword)) (decoded : decode json = .ok trigger) :
    keyword = trigger.keyword :=
  Record.text_of_decoder (of_ap (of_ap (of_ap (of_ap (of_ap (of_ap (of_ap (of_ap (of_ap (of_third
    fun _ _ _ present _ _ _ _ _ _ _ _ _ => present)))))))))) found decoded

section Rendering

variable {config : Config} {keyword : String}

/-- The keywords of a table before the one that tells that it is one. -/
def TableStatement.frontTokens (table : TableStatement) : Tokens :=
  .word table.create ++ .marker "TEMPORARY" table.temporary

/-- The keywords of a trigger before the one that tells that it is one. -/
def TriggerStatement.frontTokens (trigger : TriggerStatement) : Tokens :=
  .word trigger.create ++ .marker "CONSTRAINT" trigger.isConstraint

theorem TableStatement.exists_render_eq {table : TableStatement} {sql : String}
    (normal : keyword? table.keyword = some keyword) (rendered : table.render config = .ok sql) :
    ∃ later, sql = " ".intercalate (table.frontTokens.toList ++ keyword :: later) := by
  have front : ∀ rest : Tokens, ∃ later,
      (table.headTokens config ++ rest).toList = table.frontTokens.toList ++ keyword :: later := fun rest => by
    simp only [headTokens, frontTokens, Tokens.toList_append, Tokens.toList_word, normal, Option.toList_some,
      List.append_assoc, List.cons_append, List.nil_append, List.append_cancel_left_eq, List.cons.injEq,
      true_and, exists_eq']
  have assoc : ∀ first second third : Tokens, first ++ second ++ third = first ++ (second ++ third) :=
    fun _ _ _ => congrArg Tokens.mk (List.append_assoc ..)
  obtain ⟨tokens, found, rfl⟩ := map_eq_ok.mp rendered
  -- Both a table that is like another one and one with a body begin with the same tokens.
  have begins : ∃ rest, tokens = table.headTokens config ++ rest := by
    rw [TableStatement.tokens] at found
    split at found
    · cases found
      exact ⟨_, assoc ..⟩
    · obtain ⟨body, -, same⟩ := bind_eq_ok.mp found
      cases same
      exact ⟨_, assoc ..⟩
  obtain ⟨rest, rfl⟩ := begins
  obtain ⟨later, same⟩ := front rest
  exact ⟨later, by rw [Tokens.join_eq, same]⟩

theorem TriggerStatement.exists_render_eq {trigger : TriggerStatement} {sql : String}
    (normal : keyword? trigger.keyword = some keyword) (rendered : trigger.render config = .ok sql) :
    ∃ later, sql = " ".intercalate (trigger.frontTokens.toList ++ keyword :: later) := by
  have present : trigger.events ≠ [] := by
    intro none
    rw [render, none] at rendered
    cases rendered
  rw [render_eq_ok present] at rendered
  have written : sql = (trigger.tokens config).join := (Except.ok.inj rendered).symm
  have front : ∃ later, (trigger.tokens config).toList = trigger.frontTokens.toList ++ keyword :: later := by
    rw [toList_tokens]
    simp only [headTokens, frontTokens, Tokens.toList_append, Tokens.toList_word, normal, Option.toList_some,
      List.append_assoc, List.cons_append, List.nil_append, List.append_cancel_left_eq, List.cons.injEq,
      true_and, exists_eq']
  obtain ⟨later, same⟩ := front
  exact ⟨later, by rw [written, Tokens.join_eq, same]⟩

end Rendering

namespace Statement

/-- What the entry `keyword` of a value tells about the statement that it is decoded as. -/
def IsToldBy (entry : Json) : Statement → Prop
  | table statement => entry = .string statement.keyword ∧ lower (trim statement.keyword) = "table"
  | trigger statement => entry = .string statement.keyword ∧ lower (trim statement.keyword) = "trigger"
  | unsupported keyword => keyword = entry.keywordText

theorem exists_isToldBy {json : Json} {statement : Statement} (decoded : ofJson json = .ok statement) :
    ∃ entry, json.get? "keyword" = some entry ∧ statement.IsToldBy entry := by
  have decoded := mapError_eq_ok.mp decoded
  cases found : json.get? "keyword" with
  | none =>
    simp only [decode, found] at decoded
    cases decoded
  | some entry =>
    refine ⟨entry, rfl, ?_⟩
    rcases kind_cases entry with ⟨keyword, rfl, isTable⟩ | ⟨keyword, rfl, isTrigger⟩ | other
    · rw [decode_table isTable found] at decoded
      obtain ⟨statement, inner, rfl⟩ := map_eq_ok.mp decoded
      obtain rfl := statement.keyword_of_decode found inner
      exact ⟨rfl, isTable⟩
    · rw [decode_trigger isTrigger found] at decoded
      obtain ⟨statement, inner, rfl⟩ := map_eq_ok.mp decoded
      obtain rfl := statement.keyword_of_decode found inner
      exact ⟨rfl, isTrigger⟩
    · rw [decode_unsupported found other] at decoded
      exact Except.ok.inj decoded ▸ rfl

theorem ofJson_notText {json entry : Json} (found : json.get? "keyword" = some entry)
    (notText : ∀ text, entry ≠ .string text) : ofJson json = .ok (.unsupported entry.compact) := by
  have compact := Json.keywordText_eq_compact notText
  have decoded := decode_unsupported found (compact.symm ▸ lower_compact_ne notText)
  exact mapError_eq_ok.mpr (compact ▸ decoded)

/-- A value is decoded as a table only if its keyword is `TABLE` in some letter case, with blanks around it,
and the same is true of triggers; the SQL has this keyword after the words for creating and the marker. No
value but a text is such a keyword. The text of any other keyword is reported as it is given. -/
theorem dispatch_keyword (json : Json) :
    (∀ table, ofJson json = .ok (.table table) →
      json.get? "keyword" = some (.string table.keyword) ∧ keyword? table.keyword = some "TABLE" ∧
      ∀ config sql, (Statement.table table).render config = .ok sql →
        ∃ later, sql = " ".intercalate (table.frontTokens.toList ++ "TABLE" :: later)) ∧
    (∀ trigger, ofJson json = .ok (.trigger trigger) →
      json.get? "keyword" = some (.string trigger.keyword) ∧ keyword? trigger.keyword = some "TRIGGER" ∧
      ∀ config sql, (Statement.trigger trigger).render config = .ok sql →
        ∃ later, sql = " ".intercalate (trigger.frontTokens.toList ++ "TRIGGER" :: later)) ∧
    (∀ entry, json.get? "keyword" = some entry → (∀ text, entry ≠ .string text) →
      lower (trim entry.compact) ≠ "table" ∧ lower (trim entry.compact) ≠ "trigger" ∧
      ofJson json = .ok (.unsupported entry.compact)) ∧
    ∀ keyword, ofJson json = .ok (.unsupported keyword) →
      (∃ entry, json.get? "keyword" = some entry ∧ keyword = entry.keywordText) ∧
      ∀ config, (Statement.unsupported keyword).render config =
        .error (.unsupported "CREATE" "keyword" keyword) := by
  refine ⟨fun table decoded => ?_, fun trigger decoded => ?_, fun entry found notText => ?_,
    fun keyword decoded => ⟨exists_isToldBy decoded, fun _ => rfl⟩⟩
  · obtain ⟨_, found, rfl, isTable⟩ := exists_isToldBy decoded
    obtain ⟨normal, -⟩ := keyword?_of_lower isTable (by decide) isOwnLower_table
    exact ⟨found, normal, fun config sql => table.exists_render_eq normal⟩
  · obtain ⟨_, found, rfl, isTrigger⟩ := exists_isToldBy decoded
    obtain ⟨normal, -⟩ := keyword?_of_lower isTrigger (by decide) isOwnLower_trigger
    exact ⟨found, normal, fun config sql => trigger.exists_render_eq normal⟩
  · obtain ⟨table, trigger⟩ := lower_compact_ne notText
    exact ⟨table, trigger, ofJson_notText found notText⟩

/-- A table and a trigger whose keywords are in some letter case, with blanks around them. -/
def spelledTable : Json :=
  .object [("keyword", .string "\u00a0tAble\u2003"), ("table", .object [("table", .string "t")]),
    ("type", .string "create")]

def spelledTrigger : Json :=
  .object [("events", .array [.object [("keyword", .string "insert")]]),
    ("execute", .object [("expr", .object [("name", .string "f")]), ("keyword", .string "execute function")]),
    ("keyword", .string "TriggeR\n"), ("table", .object [("table", .string "t")]),
    ("type", .string "create")]

theorem spelled_keyword :
    (∃ table, ofJson spelledTable = .ok (.table table) ∧ keyword? table.keyword = some "TABLE" ∧
      ∃ sql later, (Statement.table table).render ⟨.ansi, .always⟩ = .ok sql ∧
        sql = " ".intercalate (table.frontTokens.toList ++ "TABLE" :: later)) ∧
    (∃ trigger, ofJson spelledTrigger = .ok (.trigger trigger) ∧
      keyword? trigger.keyword = some "TRIGGER" ∧
      ∃ sql later, (Statement.trigger trigger).render ⟨.ansi, .always⟩ = .ok sql ∧
        sql = " ".intercalate (trigger.frontTokens.toList ++ "TRIGGER" :: later)) ∧
    (lower (trim (Json.bool true).compact) ≠ "table" ∧
      ofJson (.object [("keyword", .bool true)]) = .ok (.unsupported "true")) ∧
    ofJson (.object [("keyword", .string " View ")]) = .ok (.unsupported " View ") ∧
      (Statement.unsupported " View ").render ⟨.ansi, .always⟩ =
        .error (.unsupported "CREATE" "keyword" " View ") := by
  obtain ⟨table, foundTable, tableSql, renderedTable⟩ : ∃ table, ofJson spelledTable = .ok (.table table) ∧
      ∃ sql, (Statement.table table).render ⟨.ansi, .always⟩ = .ok sql := ⟨_, rfl, _, rfl⟩
  obtain ⟨trigger, foundTrigger, triggerSql, renderedTrigger⟩ :
      ∃ trigger, ofJson spelledTrigger = .ok (.trigger trigger) ∧
        ∃ sql, (Statement.trigger trigger).render ⟨.ansi, .always⟩ = .ok sql := ⟨_, rfl, _, rfl⟩
  have ofTable := (dispatch_keyword spelledTable).1 table foundTable
  have ofTrigger := (dispatch_keyword spelledTrigger).2.1 trigger foundTrigger
  have ofBool := (dispatch_keyword (.object [("keyword", .bool true)])).2.2.1 (.bool true) rfl
    fun _ same => nomatch same
  have view : ofJson (.object [("keyword", .string " View ")]) = .ok (.unsupported " View ") := rfl
  have ofView := (dispatch_keyword (.object [("keyword", .string " View ")])).2.2.2 " View " view
  obtain ⟨tableLater, tableSame⟩ := ofTable.2.2 _ _ renderedTable
  obtain ⟨triggerLater, triggerSame⟩ := ofTrigger.2.2 _ _ renderedTrigger
  exact ⟨⟨table, foundTable, ofTable.2.1, tableSql, tableLater, renderedTable, tableSame⟩,
    ⟨trigger, foundTrigger, ofTrigger.2.1, triggerSql, triggerLater, renderedTrigger, triggerSame⟩,
    ⟨ofBool.1, ofBool.2.2⟩, view, ofView.2 _⟩

end Statement

end SqlDdl
