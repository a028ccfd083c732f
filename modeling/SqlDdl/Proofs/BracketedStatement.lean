import SqlDdl.Proofs.Brackets
import SqlDdl.Proofs.LayoutStatement

/-! The parentheses of a whole statement match, whatever characters are in its names and literals. -/

namespace SqlDdl

variable {config : Config}

section Texts

variable {commas allowed : Bool}

theorem foreign_marks : Foreign (marks commas) := by
  cases commas <;> decide

/-- A text that has no comma unless commas are allowed is also a text for places where they are. -/
theorem Without.marks_or {text : String} (clean : Without (marks allowed) text) :
    Without (marks (commas || allowed)) text := by
  cases allowed with
  | true => rwa [Bool.or_true]
  | false => exact without_marks clean

theorem wellBracketed_quote (quotes : config.quoting ≠ .never) (name : String) :
    WellBracketed config.dialect commas (config.quote name) := by
  rcases quote_cases quotes name with wrapped | ⟨bare, plain, _⟩
  · rw [wrapped, wrapIdentifier_eq]
    exact .enclose config.dialect.quote Dialect.quoteAt?_quote name
  · rw [bare]
    exact .plain (foreign_marks.plain plain)

end Texts

/-- The parentheses of all SQL match outside of quotes if no text that is never quoted has any. Unless
commas are allowed in these texts, there is none outside of parentheses where the layout has none. -/
theorem bracketLayout (quotes : config.quoting ≠ .never) (allowed : Bool) :
    Layout config (fun entry => entry.1.isQuoted = false → Without (marks allowed) entry.2)
      fun commas => WellBracketed config.dialect (commas || allowed) where
  fixed word :=
    have clean : ∀ text ∈ fixedWords, Without (',' :: brackets) text := by decide
    .plain (without_marks (clean _ word))
  number value := .plain (foreign_marks.number value)
  nat value := .plain (foreign_marks.nat value)
  name _ := wellBracketed_quote quotes _
  string _ := .enclose .single Dialect.quoteAt?_single _
  quotedString _ := .enclose .double Dialect.quoteAt?_double _
  keyword admitted normal := .plain (foreign_marks.keyword? (admitted rfl).marks_or normal)
  verbatim admitted := Or.inr (.plain (admitted rfl).marks_or)
  param admitted := .plainAppend (without_marks (by decide)) (.plain (admitted rfl).marks_or)
  function admitted group := group.plainAppend (admitted rfl).marks_or
  aggregate admitted group := group.plainAppend ((admitted rfl).marks_or.upper foreign_marks.signs)
  typeName admitted size :=
    have start := (admitted rfl).marks_or.trim.upper foreign_marks.signs
    Or.inr (size.elim (fun none => none ▸ .plainAppend start .empty) (.plainAppend start))
  unary admitted inner := inner.plainAppend (foreign_marks.unarySign (admitted rfl).marks_or)
  binary admitted before after := by
    have joined := before.between (foreign_marks.operator (admitted rfl).marks_or) (by simp) after
    simpa only [String.append_assoc] using joined
  joint known before after := by
    have clean : ∀ text ∈ joints, Without (',' :: brackets) text ∧ text ≠ "" := by decide
    obtain ⟨without, filled⟩ := clean _ known
    exact before.between (without_marks without) filled after
  comma before after := before.between (show Without (marks true) ", " by decide) (by decide) after
  ofCommas inner := inner.ofCommas
  parenthesized inner := .parenthesized (inner.elim (fun none => none ▸ .empty) id)
  trim inner := Or.inr inner.trim
  filled := Or.inr .empty

theorem TableStatement.wellBracketed (quotes : config.quoting ≠ .never) (statement : TableStatement)
    (clean : Avoids (marks true) statement.texts) {sql : String}
    (rendered : statement.render config = .ok sql) : WellBracketed config.dialect true sql := by
  rcases (bracketLayout quotes true).table statement clean rendered with rfl | balanced
  · exact .empty
  · exact balanced

theorem TriggerStatement.wellBracketed (quotes : config.quoting ≠ .never)
    (statement : TriggerStatement) (clean : Avoids (marks true) statement.texts) {sql : String}
    (rendered : statement.render config = .ok sql) : WellBracketed config.dialect true sql := by
  have named : ∀ event ∈ statement.events,
      hasText event.keyword = true ∨ WellBracketed config.dialect true "" := fun _ _ => Or.inr .empty
  rcases (bracketLayout quotes true).trigger statement clean named rendered with rfl | balanced
  · exact .empty
  · exact balanced

/-- Whatever characters are in the names and literals of a statement, a scanner of its SQL ends outside
of quotes, with every parenthesis closed and none closed that was not open. The other texts of the
statement must have no brackets in them. -/
theorem Statement.render_wellBracketed (statement : Statement) (config : Config)
    (quotes : config.quoting ≠ .never) (clean : Avoids brackets statement.texts) {sql : String}
    (rendered : statement.render config = .ok sql) : WellBracketed config.dialect true sql := by
  cases statement with
  | table value => exact value.wellBracketed quotes clean rendered
  | trigger value => exact value.wellBracketed quotes clean rendered
  | unsupported => cases rendered

/-- A table whose names and literals are full of brackets. -/
def hostileTable : Statement :=
  .table ((TableStatement.plain ⟨some "a\"b", "c('", none, none, none, none⟩).withDefinitions
    [.column ((ColumnDefinition.named "d)\"" "varchar").withDefault (.string "it's (\"")),
      .constraint ⟨some "check", none, "check", none, none,
        [.binary "like" (.column (.named "]'")) (.quotedString "\"(") true], none, none⟩])

/-- The SQL of the table, where identifiers are between square brackets. -/
def hostileSql : String :=
  "CREATE TABLE [a\"b].[c('] ([d)\"] VARCHAR DEFAULT 'it''s (\"', " ++
    "CONSTRAINT [check] CHECK (([]]'] LIKE \"\"\"(\")))"

theorem hostileTable_wellBracketed :
    Avoids brackets hostileTable.texts ∧
      hostileTable.render ⟨.transactSql, .asNeeded⟩ = .ok hostileSql ∧
      WellBracketed .transactSql true hostileSql := by
  have clean : Avoids brackets hostileTable.texts := by decide
  have rendered : hostileTable.render ⟨.transactSql, .asNeeded⟩ = .ok hostileSql :=
    eq_ok_of_toOption (by decide +kernel)
  exact ⟨clean, rendered,
    hostileTable.render_wellBracketed ⟨.transactSql, .asNeeded⟩ (by decide) clean rendered⟩

end SqlDdl
