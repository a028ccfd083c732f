import SqlDdl.Proofs.SeparatedLists
import SqlDdl.Statement.Render

/-! Lists of columns and of tables are read back from their SQL, whatever characters are in the names, and
so two lists with the same SQL name the same columns or tables. -/

namespace SqlDdl

/-- A name in a list, with the name before its point and the one after `AS`. -/
structure Reference where
  qualifier : Option String
  name : String
  aliasName : Option String
deriving DecidableEq

/-- What a column names. An empty table is none. -/
def ColumnRef.reference (ref : ColumnRef) : Reference :=
  ⟨nonempty? ref.table, ref.column, none⟩

/-- What a table names. An empty database or other name is none. -/
def TableRef.reference (ref : TableRef) : Reference :=
  ⟨nonempty? ref.db, ref.table, nonempty? ref.aliasName⟩

/-- Whether a table is named and nothing more. -/
def TableRef.IsUnjoined (ref : TableRef) : Prop :=
  ref.join = none ∧ ref.condition = none ∧ ref.shared = none

/-- Reads a name or a star without quotes. -/
def Dialect.readStarred (dialect : Dialect) : Reader String
  | '*' :: rest => some ("*", rest)
  | cs => dialect.readName cs

/-- Reads one name, or two with a point between them. -/
def Dialect.readQualified (dialect : Dialect) : Reader (Option String × String) := fun cs =>
  match dialect.readStarred cs with
  | some (qualifier, '.' :: rest) =>
    (dialect.readStarred rest).map fun found => ((some qualifier, found.1), found.2)
  | some (name, rest) => some ((none, name), rest)
  | none => none

def Dialect.readReference (dialect : Dialect) : Reader Reference := fun cs =>
  match dialect.readQualified cs with
  | some ((qualifier, name), ' ' :: 'A' :: 'S' :: ' ' :: rest) =>
    (dialect.readName rest).map fun found => (⟨qualifier, name, some found.1⟩, found.2)
  | some ((qualifier, name), rest) => some (⟨qualifier, name, none⟩, rest)
  | none => none

/-- Reads a list of names that takes the whole of a text. -/
def Dialect.readReferences (dialect : Dialect) : List Char → Option (List Reference) :=
  readToEnd ", " dialect.readReference

/-- Whether an item of a list ends where a text begins. -/
def endsItem : List Char → Bool
  | [] => true
  | c :: _ => c == ','

theorem endsName_of_endsItem {cs : List Char} (ends : endsItem cs = true) : endsName cs = true := by
  cases cs with
  | nil => rfl
  | cons c cs =>
    rw [endsItem, beq_iff_eq] at ends
    rw [ends]
    rfl

section Names

variable {config : Config}

theorem readStarred_quote (quotes : config.quoting ≠ .never) (name : String) {rest : List Char}
    (ends : endsName rest = true) :
    config.dialect.readStarred ((config.quote name).toList ++ rest) = some (name, rest) := by
  have named := readName_quote quotes name ends
  rw [Dialect.readStarred.eq_def]
  split
  · -- No name is written with a star in front.
    rename_i later starred
    have none : config.dialect.readName ('*' :: later) = none := by cases config.dialect <;> rfl
    rw [starred, none] at named
    cases named
  · exact named

theorem readStarred_column (quotes : config.quoting ≠ .never) (column : String) {rest : List Char}
    (ends : endsName rest = true) :
    config.dialect.readStarred ((if column = "*" then "*" else config.quote column).toList ++ rest) =
      some (column, rest) := by
  by_cases star : column = "*"
  · subst star
    rw [if_pos rfl]
    rfl
  · rw [if_neg star]
    exact readStarred_quote quotes column ends

/-- A single name, or a name after a qualifier, is read back where neither a point nor more of a name
follows. -/
theorem readQualified_append (quotes : config.quoting ≠ .never) {qualifier : Option String}
    {name written : String} {rest : List Char} (ends : endsName rest = true) (noPoint : rest.head? ≠ some '.')
    (reads : config.dialect.readStarred (written.toList ++ rest) = some (name, rest)) :
    config.dialect.readQualified ((match qualifier with
      | some qualifier => config.quote qualifier ++ "." ++ written
      | none => written).toList ++ rest) = some ((qualifier, name), rest) := by
  cases qualifier with
  | none =>
    simp only [Dialect.readQualified, reads]
    split
    · rename_i found
      cases found
      exact absurd rfl noPoint
    · rename_i found
      cases found
      rfl
    · rename_i found
      cases found
  | some qualifier =>
    have chars : (config.quote qualifier ++ "." ++ written).toList ++ rest =
        (config.quote qualifier).toList ++ '.' :: (written.toList ++ rest) := by
      simp only [String.toList_append, List.append_assoc]
      rfl
    have first := readStarred_quote quotes qualifier (rfl : endsName ('.' :: (written.toList ++ rest)) = true)
    simp only [chars, Dialect.readQualified, first, reads, Option.map_some]

/-- The name of a column or a table is read back before a comma or the end, with what stands after `AS`. -/
theorem readReference_withAlias (quotes : config.quoting ≠ .never) {qualifier aliasName : Option String}
    {name written : String} {rest : List Char} (ends : endsItem rest = true)
    (reads : ∀ later, endsName later = true → later.head? ≠ some '.' →
      config.dialect.readQualified (written.toList ++ later) = some ((qualifier, name), later)) :
    config.dialect.readReference ((withAlias config written aliasName).toList ++ rest) =
      some (⟨qualifier, name, nonempty? aliasName⟩, rest) := by
  have plainEnd := endsName_of_endsItem ends
  cases shape : nonempty? aliasName with
  | none =>
    have noPoint : rest.head? ≠ some '.' := by
      intro point
      cases rest with
      | nil => cases point
      | cons c rest =>
        cases point
        cases ends
    simp only [withAlias, shape, Dialect.readReference, reads rest plainEnd noPoint]
    split
    · rename_i found
      cases found
      cases ends
    · rename_i found
      cases found
      rfl
    · rename_i found
      cases found
  | some other =>
    have chars : (written ++ " AS " ++ config.quote other).toList ++ rest =
        written.toList ++ ' ' :: 'A' :: 'S' :: ' ' :: ((config.quote other).toList ++ rest) := by
      simp only [String.toList_append, List.append_assoc]
      rfl
    have space : some ' ' ≠ some '.' := by decide
    have first := reads (' ' :: 'A' :: 'S' :: ' ' :: ((config.quote other).toList ++ rest)) rfl space
    have second := readName_quote quotes other plainEnd
    simp only [withAlias, shape, chars, Dialect.readReference, first, second, Option.map_some]

theorem readReference_column (quotes : config.quoting ≠ .never) (ref : ColumnRef) {rest : List Char}
    (ends : endsItem rest = true) :
    config.dialect.readReference ((ref.render config).toList ++ rest) = some (ref.reference, rest) := by
  have reads : ∀ later, endsName later = true → later.head? ≠ some '.' →
      config.dialect.readQualified ((ref.render config).toList ++ later) =
        some ((nonempty? ref.table, ref.column), later) := fun later plainEnd noPoint =>
    readQualified_append quotes plainEnd noPoint (readStarred_column quotes ref.column plainEnd)
  show config.dialect.readReference ((withAlias config (ref.render config) none).toList ++ rest) = _
  exact readReference_withAlias quotes ends reads

theorem readReference_table (quotes : config.quoting ≠ .never) (ref : TableRef) {rest : List Char}
    (ends : endsItem rest = true) :
    config.dialect.readReference ((ref.render config).toList ++ rest) = some (ref.reference, rest) := by
  refine readReference_withAlias quotes ends fun later plainEnd noPoint => ?_
  exact readQualified_append quotes plainEnd noPoint (readStarred_quote quotes ref.table plainEnd)

theorem nonempty?_nonempty? (name : Option String) : nonempty? (nonempty? name) = nonempty? name := by
  rw [nonempty?, nonempty?, Option.filter_filter]
  simp only [Bool.and_self]

/-- The SQL of a column is a function of what the column names. -/
theorem ColumnRef.map_render (refs : List ColumnRef) :
    refs.map (render config) =
      (refs.map reference).map fun found => render config ⟨found.qualifier, found.name⟩ := by
  rw [List.map_map]
  refine List.map_congr_left fun ref _ => ?_
  simp only [Function.comp_apply, reference, render, nonempty?_nonempty?]
  rfl

/-- The SQL of a table is a function of what the table names. -/
theorem TableRef.map_render (refs : List TableRef) :
    refs.map (render config) = (refs.map reference).map fun found =>
      withAlias config (qualified config found.qualifier found.name) found.aliasName := by
  rw [List.map_map]
  refine List.map_congr_left fun ref _ => ?_
  simp only [Function.comp_apply, reference, render, withAlias, qualified, nonempty?_nonempty?]

/-- The names in a list are read back if each of them is. -/
theorem readReferences_commaList {β : Type} {text : β → String} {value : β → Reference} {items : List β}
    (reads : ∀ x ∈ items, ∀ rest, endsItem rest = true →
      config.dialect.readReference ((text x).toList ++ rest) = some (value x, rest)) :
    config.dialect.readReferences (commaList (items.map text)).toList = some (items.map value) := by
  refine readToEnd_intercalate (by decide) (fun x member empty => ?_) reads (fun _ => rfl) rfl
  -- Nothing can be read from an empty text.
  have read := reads x member [] rfl
  have none : config.dialect.readReference [] = none := by cases config.dialect <;> rfl
  rw [empty] at read
  cases none.symm.trans read

/-- Tables that are not joined to one another are a list with commas. -/
theorem Tables.render_unjoined {tables : Tables} (unjoined : ∀ ref ∈ tables.toList, ref.IsUnjoined) :
    tables.render config = commaList (tables.toList.map (TableRef.render config)) := by
  unfold Tables.render
  cases shape : tables.toList with
  | nil => rfl
  | cons first later =>
    rw [shape] at unjoined
    have next : later.map (TableRef.renderNext config) =
        (later.map (TableRef.render config)).map (", " ++ ·) := by
      rw [List.map_map]
      refine List.map_congr_left fun ref member => ?_
      rw [TableRef.renderNext, (unjoined ref (shape ▸ List.mem_cons_of_mem _ member)).1]
      rfl
    show first.render config ++ String.join (later.map (TableRef.renderNext config)) = _
    rw [next, List.map_cons, commaList, intercalate_cons]

/-- Lists of columns and lists of tables that are not joined are read back from their SQL. Two lists with
the same SQL have the same columns or tables, where an empty table, database or other name is none. -/
theorem readReferences_render (quotes : config.quoting ≠ .never) :
    (∀ refs : List ColumnRef,
      config.dialect.readReferences (ColumnRef.renderList config refs).toList =
        some (refs.map ColumnRef.reference)) ∧
    (∀ tables : Tables, (∀ ref ∈ tables.toList, ref.IsUnjoined) →
      config.dialect.readReferences (tables.render config).toList =
        some (tables.toList.map TableRef.reference)) ∧
    (∀ refs others : List ColumnRef,
      ColumnRef.renderList config refs = ColumnRef.renderList config others ↔
        refs.map ColumnRef.reference = others.map ColumnRef.reference) ∧
    (∀ tables others : Tables, (∀ ref ∈ tables.toList, ref.IsUnjoined) →
      (∀ ref ∈ others.toList, ref.IsUnjoined) →
      (tables.render config = others.render config ↔
        tables.toList.map TableRef.reference = others.toList.map TableRef.reference)) := by
  have readColumns : ∀ refs : List ColumnRef,
      config.dialect.readReferences (ColumnRef.renderList config refs).toList =
        some (refs.map ColumnRef.reference) := fun refs =>
    readReferences_commaList fun ref _ _ ends => readReference_column quotes ref ends
  have readTables : ∀ tables : Tables, (∀ ref ∈ tables.toList, ref.IsUnjoined) →
      config.dialect.readReferences (tables.render config).toList =
        some (tables.toList.map TableRef.reference) := by
    intro tables unjoined
    rw [Tables.render_unjoined unjoined]
    exact readReferences_commaList fun ref _ _ ends => readReference_table quotes ref ends
  refine ⟨readColumns, readTables, fun refs others => ⟨fun same => ?_, fun same => ?_⟩,
    fun tables others unjoined apart => ⟨fun same => ?_, fun same => ?_⟩⟩
  · have read := readColumns refs
    rw [same, readColumns others] at read
    exact (Option.some.inj read).symm
  · rw [ColumnRef.renderList, ColumnRef.renderList, ColumnRef.map_render, same, ← ColumnRef.map_render]
  · have read := readTables tables unjoined
    rw [same, readTables others apart] at read
    exact (Option.some.inj read).symm
  · rw [Tables.render_unjoined unjoined, Tables.render_unjoined apart, TableRef.map_render, same,
      ← TableRef.map_render]

/-- Names with a comma, a point and quotes in them, an empty name and a reserved word. -/
theorem readReferences_unusual :
    let config : Config := ⟨.transactSql, .asNeeded⟩
    let tables := Tables.many [⟨none, "a], b", some "as", none, none, none⟩,
      ⟨some "x.y", "", some "", none, none, none⟩]
    config.quoting ≠ .never ∧ (∀ ref ∈ tables.toList, ref.IsUnjoined) ∧
      tables.render config = "[a]], b] AS [as], [x.y].[]" ∧
      Dialect.transactSql.readReferences "[a]], b] AS [as], [x.y].[]".toList =
        some [⟨none, "a], b", some "as"⟩, ⟨some "x.y", "", none⟩] := by
  intro config tables
  have quotes : config.quoting ≠ .never := by decide
  have unjoined : ∀ ref ∈ tables.toList, ref.IsUnjoined :=
    List.forall_mem_cons.mpr ⟨⟨rfl, rfl, rfl⟩, List.forall_mem_singleton.mpr ⟨rfl, rfl, rfl⟩⟩
  have text : tables.render config = "[a]], b] AS [as], [x.y].[]" := by decide +kernel
  have read := (readReferences_render quotes).2.1 tables unjoined
  rw [text] at read
  exact ⟨quotes, unjoined, text, read⟩

end Names

end SqlDdl
