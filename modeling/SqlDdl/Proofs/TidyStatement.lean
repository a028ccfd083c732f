import SqlDdl.Proofs.LayoutStatement
import SqlDdl.Proofs.Spacing

/-! The SQL of a statement has no blank at its ends and no stray space in it. -/

namespace SqlDdl

/-- Whether a text brings no stray space into the SQL that it is in. Any blanks may be in a keyword, since
its words are written with one space between them. -/
def IsSpaced : RoleText → Prop
  | (.keyword, text) => Without closers text
  | (.identifier, text) | (.literal, text) => Without closers text ∧ IsSingleSpaced text.toList
  | (.operator, text) => text ≠ "" ∧ IsCompact text
  | (.typeName, text) | (.aggregate, text) | (.function, text) | (.param, text) | (.verbatim, text) =>
    IsCompact text

instance : DecidablePred IsSpaced
  | (.keyword, text) => inferInstanceAs (Decidable (Without closers text))
  | (.identifier, text) | (.literal, text) =>
    inferInstanceAs (Decidable (Without closers text ∧ IsSingleSpaced text.toList))
  | (.operator, text) => inferInstanceAs (Decidable (text ≠ "" ∧ IsCompact text))
  | (.typeName, text) | (.aggregate, text) | (.function, text) | (.param, text) | (.verbatim, text) =>
    inferInstanceAs (Decidable (IsCompact text))

variable {config : Config}

theorem isNeat_quote (quotes : config.quoting ≠ .never) {name : String}
    (spaced : IsSpaced (.identifier, name)) : IsNeat (config.quote name) := by
  rcases quote_cases quotes name with wrapped | ⟨bare, plain, _⟩
  · rw [wrapped, wrapIdentifier]
    refine isNeat_enclose ?_ ?_ spaced.2 spaced.1 <;> cases config.dialect <;> decide
  · rw [bare]
    exact isNeat_plain plain

/-- All SQL is neat if no text brings a stray space in. -/
theorem neatLayout (quotes : config.quoting ≠ .never) : Layout config IsSpaced fun _ => IsNeat where
  fixed word :=
    have each : ∀ text ∈ fixedWords, IsCompact text ∧ text ≠ "" := by decide
    (each _ word).1.isNeat (each _ word).2
  number value := value.isNeat_text
  nat value := isNeat_nat value
  name admitted := isNeat_quote quotes admitted
  string admitted := isNeat_enclose (by decide) (by decide) admitted.2 admitted.1
  quotedString admitted := isNeat_enclose (by decide) (by decide) admitted.2 admitted.1
  keyword admitted normal := isNeat_keyword admitted normal
  verbatim admitted := IsCompact.orEmpty admitted
  param admitted :=
    have colon : IsNeat ":" := IsCompact.isNeat (by decide) (by decide)
    colon.extend (IsCompact.orEmpty admitted)
  function admitted group := .prepend (IsCompact.orEmpty admitted) group
  aggregate admitted group := .prepend (IsCompact.orEmpty (IsCompact.upper admitted)) group
  typeName {_ name _} admitted size := by
    have compact : IsCompact name := admitted
    rw [compact.ends.trim_eq]
    rcases compact.upper.orEmpty with none | neat
    · rwa [none, String.empty_append]
    · exact Or.inr (neat.extend size)
  unary {_ operator _} admitted inner := by
    have word : IsNeat operator := admitted.2.isNeat admitted.1
    rw [Expr.unarySign]
    split
    · exact word.append inner
    · split
      · have negation : IsNeat "NOT" := IsCompact.isNeat (by decide) (by decide)
        exact negation.spaced inner
      · exact (admitted.2.upper.isNeat (upper_ne_empty admitted.1)).spaced inner
  binary admitted before after := by
    have word := admitted.2.upper.isNeat (upper_ne_empty admitted.1)
    exact (before.spaced word).spaced after
  joint known before after :=
    have each : ∀ text ∈ joints, NoStraySpace text.toList := by decide
    before.between (each _ known) after
  comma before after := before.between (by decide) after
  ofCommas inner := inner
  parenthesized inner :=
    have opened : IsNeat "(" := IsCompact.isNeat (by decide) (by decide)
    (opened.extend inner).closed
  trim inner := Or.inr (inner.isTidy.ends.trim_eq.symm ▸ inner)
  filled := Or.inl IsNeat.hasText

/-- The SQL of a statement has no blank at its ends, and no space before another one, a comma or a closing
parenthesis, if no text brings a stray space in and every event of a trigger names something. -/
theorem Statement.render_tidy (statement : Statement) (config : Config) (quotes : config.quoting ≠ .never)
    (spaced : ∀ entry ∈ statement.texts, IsSpaced entry)
    (named : ∀ event ∈ statement.events, hasText event.keyword = true) {sql : String}
    (rendered : statement.render config = .ok sql) : IsTidy sql := by
  have events : ∀ event ∈ statement.events, hasText event.keyword = true ∨ IsNeat "" :=
    fun event inside => Or.inl (named event inside)
  rcases (neatLayout quotes).statement statement spaced events rendered with rfl | neat
  · exact ⟨by decide, by decide⟩
  · exact neat.isTidy

/-- A trigger whose keywords have blanks around and between their words, or no words. -/
def paddedTrigger : Statement :=
  .trigger {
    create := " create\t  or replace "
    isConstraint := some (.text " ")
    keyword := "trigger "
    name := some " a"
    location := some "instead\n of"
    events := [.named " insert ", (TriggerEvent.named "update").ofColumns []]
    table := .named "t"
    source := none
    deferrable := some ⟨"", some "initially  deferred "⟩
    forEach := none
    condition := some ⟨"when", .binary "=" (.column (.named "a")) (.string " b ") false, true⟩
    action := ⟨"execute function", ⟨"f", some []⟩⟩ }

/-- The SQL of the trigger. -/
def paddedSql : String :=
  "CREATE OR REPLACE TRIGGER \" a\" INSTEAD OF INSERT OR UPDATE OF ON t INITIALLY DEFERRED " ++
    "WHEN (a = ' b ') EXECUTE FUNCTION f()"

theorem paddedTrigger_tidy :
    (∀ entry ∈ paddedTrigger.texts, IsSpaced entry) ∧
      (∀ event ∈ paddedTrigger.events, hasText event.keyword = true) ∧
      paddedTrigger.render ⟨.postgres, .asNeeded⟩ = .ok paddedSql ∧ IsTidy paddedSql := by
  have spaced : ∀ entry ∈ paddedTrigger.texts, IsSpaced entry := by decide
  have named : ∀ event ∈ paddedTrigger.events, hasText event.keyword = true := by decide
  have rendered : paddedTrigger.render ⟨.postgres, .asNeeded⟩ = .ok paddedSql :=
    eq_ok_of_toOption (by decide +kernel)
  exact ⟨spaced, named, rendered,
    paddedTrigger.render_tidy ⟨.postgres, .asNeeded⟩ (by decide) spaced named rendered⟩

end SqlDdl
