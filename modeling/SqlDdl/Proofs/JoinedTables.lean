import SqlDdl.Proofs.TokenLists
import SqlDdl.Table.Render

/-! What stands between the tables of a list: a comma or the keyword of a join, unless that keyword is
blank. -/

namespace SqlDdl

/-- Whether a text keeps two tables apart: it is a comma, or a keyword between spaces. Where there is only a
space, the second table would be another name for the first one. -/
inductive SeparatesTables : String → Prop
  | comma : SeparatesTables ", "
  | keyword {keyword : String} (filled : hasText keyword = true) : SeparatesTables (" " ++ keyword ++ " ")

theorem not_separatesTables_space : ¬SeparatesTables " " := by
  generalize space : " " = text
  intro separates
  cases separates with
  | comma => exact absurd space (by decide)
  | keyword filled =>
    have lengths := congrArg (fun text : String => text.toList.length) space
    have one : " ".toList.length = 1 := rfl
    simp only [String.toList_append, List.length_append] at lengths
    omega

namespace TableRef

/-- What stands before a table that is not the first one of a list. -/
def separator (ref : TableRef) : String :=
  match ref.join with
  | none => ", "
  | some join =>
    match keyword? join with
    | some keyword => " " ++ keyword ++ " "
    | none => " "

/-- What stands after a table that is joined to the one before it. -/
def joinText (config : Config) (ref : TableRef) : String :=
  match ref.join with
  | none => ""
  | some _ => String.join ((ref.joinTokens config).toList.map (" " ++ ·))

variable {config : Config} {ref : TableRef}

theorem isToken_render (quotes : config.quoting ≠ .never) (ref : TableRef) : IsToken (ref.render config) := by
  have name : IsToken (qualified config ref.db ref.table) := by
    rw [qualified]
    split
    · rename_i db _
      exact (isToken_quote quotes db).between (isToken_quote quotes ref.table)
    · exact isToken_quote quotes ref.table
  rw [render, withAlias]
  split
  · rename_i other _
    exact name.between (isToken_quote quotes other)
  · exact name

theorem separator_joined {join keyword : String} (joined : ref.join = some join)
    (normal : keyword? join = some keyword) : ref.separator = " " ++ keyword ++ " " := by
  simp only [separator, joined, normal]

theorem separator_blank {join : String} (joined : ref.join = some join) (blank : keyword? join = none) :
    ref.separator = " " := by
  simp only [separator, joined, blank]

theorem separatesTables_iff : SeparatesTables ref.separator ↔ ref.join.all hasText = true := by
  cases joined : ref.join with
  | none =>
    have comma : ref.separator = ", " := by rw [separator, joined]
    exact iff_of_true (comma ▸ .comma) rfl
  | some join =>
    rw [Option.all_some]
    cases normal : keyword? join with
    | some keyword =>
      have token : IsToken keyword := .keyword normal
      rw [separator_joined joined normal]
      exact iff_of_true (.keyword token.hasText) (exists_keyword?_iff.mp ⟨keyword, normal⟩)
    | none =>
      have blank : hasText join = false := keyword?_eq_none_iff_hasText.mp normal
      rw [separator_blank joined normal]
      exact iff_of_false not_separatesTables_space (Bool.eq_false_iff.mp blank)

/-- A table is written between what separates it from the table before it and how it is joined to that one. -/
theorem renderNext_eq (quotes : config.quoting ≠ .never) (ref : TableRef) :
    ref.renderNext config = ref.separator ++ ref.render config ++ ref.joinText config := by
  have table : IsToken (ref.render config) := ref.isToken_render quotes
  rw [renderNext, separator, joinText]
  cases ref.join with
  | none => rw [String.append_empty]
  | some join =>
    have later := intercalate_cons " " (ref.render config) (ref.joinTokens config).toList
    simp only [Tokens.join_eq, Tokens.toList_append, Tokens.toList_word, Tokens.toList_text table]
    cases normal : keyword? join with
    | none =>
      rw [Option.toList_none, List.nil_append, List.singleton_append, later, String.append_assoc]
    | some keyword =>
      rw [Option.toList_some, List.append_assoc, List.singleton_append, List.singleton_append,
        String.intercalate_cons_cons, later]
      simp only [String.append_assoc]

end TableRef

namespace Tables

variable {config : Config}

/-- The tables of a list are written in their order, and before each but the first is what separates it from the
table before it. That is a comma or the keyword of a join, unless the table is joined by a blank keyword. -/
theorem render_separated (quotes : config.quoting ≠ .never) (tables : Tables) :
    (tables.toList = [] → tables.render config = "") ∧
    ∀ first later, tables.toList = first :: later →
      tables.render config = first.render config ++
        String.join (later.map fun ref => ref.separator ++ ref.render config ++ ref.joinText config) ∧
      ∀ ref ∈ later, SeparatesTables ref.separator ↔ ref.join.all hasText = true := by
  refine ⟨fun none => by rw [render, none], fun first later shape => ⟨?_, fun ref _ => ?_⟩⟩
  · have next : later.map (TableRef.renderNext config) =
        later.map fun ref => ref.separator ++ ref.render config ++ ref.joinText config :=
      List.map_congr_left fun ref _ => ref.renderNext_eq quotes
    rw [render, shape]
    show first.render config ++ String.join (later.map (TableRef.renderNext config)) = _
    rw [next]
  · exact TableRef.separatesTables_iff

/-- A comma, a join by a condition and one by columns. -/
def joinedTables : Tables :=
  .many [.named "a", .named "b",
    ⟨none, "c", some "d", some "left\tjoin ", some (.binary "=" (.column (.named "x")) .null false), none⟩,
    ⟨none, "e", none, some "join", none, some ["x", "or"]⟩]

theorem joinedTables_separated :
    Config.quoting {} ≠ .never ∧
      joinedTables.render {} = "a, b LEFT JOIN c AS d ON x = NULL JOIN e USING (x, \"or\")" ∧
      ∃ first later, joinedTables.toList = first :: later ∧
        joinedTables.render {} = first.render {} ++
          String.join (later.map fun ref => ref.separator ++ ref.render {} ++ ref.joinText {}) ∧
        ∀ ref ∈ later, SeparatesTables ref.separator := by
  have quotes : Config.quoting {} ≠ .never := by decide
  obtain ⟨written, separates⟩ := (render_separated quotes joinedTables).2 _ _ rfl
  refine ⟨quotes, by decide +kernel, _, _, rfl, written, fun ref member => (separates ref member).mpr ?_⟩
  have keywords : ∀ ref ∈ joinedTables.toList.tail, ref.join.all hasText = true := by decide
  exact keywords ref member

/-- Two tables that are joined by a blank keyword. -/
def blankJoin : Tables :=
  .many [.named "a", { TableRef.named "b" with join := some " " }]

/-- What is left of the second table is another name for the first one. -/
theorem blankJoin_unseparated :
    blankJoin.render {} = "a b" ∧
      ¬∃ separator, SeparatesTables separator ∧ blankJoin.render {} = "a" ++ separator ++ "b" := by
  have written : blankJoin.render {} = "a b" := by decide +kernel
  refine ⟨written, fun ⟨separator, separates, same⟩ => ?_⟩
  have space : separator = " " := by
    have chars := congrArg String.toList (written.symm.trans same)
    rw [String.toList_append, String.toList_append, List.append_assoc] at chars
    have rest : " ".toList ++ "b".toList = separator.toList ++ "b".toList := (List.cons.inj chars).2
    exact (String.toList_inj.mp (List.append_cancel_right rest)).symm
  exact not_separatesTables_space (space ▸ separates)

end Tables

end SqlDdl
