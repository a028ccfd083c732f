import SqlDdl.Proofs.FixedNames
import SqlDdl.Proofs.RewrittenStatement

/-! The configuration decides how identifiers are written and nothing else. -/

namespace SqlDdl

theorem Config.quote_never (dialect : Dialect) (name : String) :
    Config.quote ⟨dialect, .never⟩ name = name :=
  rfl

theorem writeColumn_never (dialect : Dialect) (name : String) :
    writeColumn ⟨dialect, .never⟩ name = name := by
  rw [writeColumn, Config.quote_never]
  split
  · rename_i star
    exact star.symm
  · rfl

theorem Config.quote_ne_empty (config : Config) {name : String} (filled : name ≠ "") :
    config.quote name ≠ "" := by
  rw [quote]
  split
  · intro empty
    have chars := congrArg String.toList empty
    rw [wrapIdentifier, enclose, String.toList_ofList] at chars
    cases chars
  · exact filled

theorem Config.quote_plain {name : String} (plain : isPlain name.toList = true)
    (free : isReserved name = false) (dialect : Dialect) :
    Config.quote ⟨dialect, .asNeeded⟩ name = name := by
  have bare : needsQuoting name = false := by rw [needsQuoting, plain, free]; rfl
  rw [quote, quotes, bare]
  rfl

/-- Identifiers that are quoted beforehand need no quotes any more. -/
theorem Rewriting.preserves_naming (config : Config) (dialect : Dialect) :
    (naming config.quote).Preserves config ⟨dialect, .never⟩ where
  column name := writeColumn_never dialect (writeColumn config name)
  optName name := by
    cases name with
    | none => rfl
    | some name =>
      by_cases empty : name = ""
      · rw [empty]
        rfl
      -- A name that is not empty stays so between quotes, and is still taken as present.
      · have filled := config.quote_ne_empty empty
        have present : ∀ {text : String}, text ≠ "" → nonempty? (some text) = some text :=
          fun other => Option.filter_eq_some_iff.mpr ⟨rfl, by simpa using other⟩
        simp only [naming, Option.map_some, if_neg empty]
        rw [present filled, present empty]
        rfl
  indexName name := by
    cases name <;> rfl
  name _ := rfl
  string _ := rfl
  keyword _ := rfl
  check _ := rfl
  marker _ _ _ := rfl
  operator _ := rfl
  sign _ := rfl
  aggregate _ := rfl
  typeName _ := rfl

/-- A configuration writes a statement as one that never quotes writes the statement with its identifiers
quoted beforehand. Where nothing is quoted, the dialect does not matter, and where every identifier is
plain and not reserved, quoting as needed is never quoting. -/
theorem Statement.render_naming (statement : Statement) :
    (∀ config dialect, statement.render config =
      (statement.map (.naming config.quote)).render ⟨dialect, .never⟩) ∧
    (∀ first second, statement.render ⟨first, .never⟩ = statement.render ⟨second, .never⟩) ∧
    ((∀ name, (.identifier, name) ∈ statement.texts →
        isPlain name.toList = true ∧ isReserved name = false) →
      ∀ first second, statement.render ⟨first, .asNeeded⟩ = statement.render ⟨second, .never⟩) := by
  have quoted : ∀ config dialect, statement.render config =
      (statement.map (.naming config.quote)).render ⟨dialect, .never⟩ := fun config dialect =>
    (statement.render_map (Rewriting.preserves_naming config dialect)).symm
  have fixed : ∀ config : Config, (∀ name, (.identifier, name) ∈ statement.texts →
      config.quote name = name) → ∀ dialect, statement.render config = statement.render ⟨dialect, .never⟩ :=
    fun config same dialect => by rw [quoted config dialect, statement.map_naming same]
  refine ⟨quoted, ?_, ?_⟩
  · intro first second
    exact fixed ⟨first, .never⟩ (fun _ _ => rfl) second
  · intro plain first second
    exact fixed ⟨first, .asNeeded⟩ (fun name member =>
      Config.quote_plain (plain name member).1 (plain name member).2 first) second

/-- A table with a key of two columns, all of whose names are plain. -/
def plainTable : Statement :=
  .table ((TableStatement.plain (.withDb (.named "items") "shop")).withDefinitions
    [.column ((ColumnDefinition.named "id" "int").notNull),
      .constraint ⟨some "items_pk", none, "primary key", some "pk", none,
        [.column (.named "id"), .column ⟨some "items", "*"⟩], none, none⟩])

theorem plainTable_render_naming :
    (∀ name, (.identifier, name) ∈ plainTable.texts →
        isPlain name.toList = true ∧ isReserved name = false) ∧
      plainTable.render ⟨.mySql, .asNeeded⟩ = plainTable.render ⟨.transactSql, .never⟩ := by
  have all : (plainTable.texts.all fun entry =>
      entry.1 ≠ .identifier || isPlain entry.2.toList && !isReserved entry.2) = true := by decide +kernel
  have plain : ∀ name, (.identifier, name) ∈ plainTable.texts →
      isPlain name.toList = true ∧ isReserved name = false := by
    intro name member
    simpa using List.all_eq_true.mp all _ member
  exact ⟨plain, plainTable.render_naming.2.2 plain .mySql .transactSql⟩

end SqlDdl
