import SqlDdl.Proofs.TokenLists
import SqlDdl.Select.Render

/-! The selects of a query in its SQL: they stand in their order, and between two of them is the set operation of the
first one. -/

namespace SqlDdl

namespace Select

variable {config : Config}

theorem allTrimmed_clause (keyword operand : String) : (clause keyword operand).AllTrimmed :=
  .append (Tokens.allTrimmed_opt (some keyword)) (Tokens.allTrimmed_opt (some operand))

theorem allTrimmed_tokens (config : Config) (select : Select) : (select.tokens config).AllTrimmed := by
  have keyword := Tokens.allTrimmed_opt (some "SELECT")
  have distinct := Tokens.allTrimmed_opt (select.distinct.bind (Marker.keyword? "DISTINCT"))
  have columns := Tokens.allTrimmed_opt (some (select.columns.render config))
  have limit := Tokens.allTrimmed_opt (select.limit.bind (Limit.render? config))
  refine .append (.append (.append (.append (.append (.append (.append (.append keyword distinct) columns)
    (.part ?source)) (.part ?condition)) (.part ?groupBy)) (.part ?having)) (.part ?orderBy)) limit
  all_goals exact fun _ _ => allTrimmed_clause _ _

/-- A select is written as a token: it begins with a keyword, and no token ends with a blank. -/
theorem isToken_render (select : Select) : IsToken (select.render config) := by
  have written : "SELECT" ∈ (select.tokens config).toList := by
    have first : "SELECT" ∈ (Tokens.text "SELECT").toList := List.mem_singleton_self _
    simp only [tokens, Tokens.toList_append, List.mem_append, first, true_or]
  exact .intercalate (List.ne_nil_of_mem written) (select.allTrimmed_tokens config).isToken

theorem isToken_operation (select : Select) : IsToken select.operation := by
  rw [operation]
  cases found : select.setOperation.bind keyword? with
  | none => exact ⟨by decide, by decide⟩
  | some keyword =>
    obtain ⟨_, _, normal⟩ := Option.bind_eq_some_iff.mp found
    exact .keyword normal

/-- The SQL of a select does not depend on its set operation. -/
theorem render_setOperation (select : Select) (operation : Option String) :
    { select with setOperation := operation }.render config = select.render config :=
  rfl

end Select

namespace Query

variable {config : Config}

/-- The set operations between the selects of a query, in their order. That of the last select joins nothing. -/
def operations (query : Query) : List String :=
  (query.first :: query.later).dropLast.map Select.operation

theorem length_operations (query : Query) : query.operations.length = query.later.length := by
  rw [operations, List.length_map, List.length_dropLast, List.length_cons, Nat.add_sub_cancel]

/-- The set operations and the selects after the first one, in turn. -/
def laterTexts (config : Config) (query : Query) : List String :=
  (query.operations.zip query.later).flatMap fun step => [step.1, step.2.render config]

theorem laterTexts_cons (select next : Select) (later : List Select) :
    laterTexts config ⟨select, next :: later⟩ =
      select.operation :: next.render config :: laterTexts config ⟨next, later⟩ :=
  rfl

theorem toList_laterTokens (select : Select) (later : List Select) :
    (laterTokens config select later).toList = laterTexts config ⟨select, later⟩ := by
  induction later generalizing select with
  | nil => rfl
  | cons next later ih =>
    rw [laterTokens, Tokens.toList_append, Tokens.toList_append, ih,
      Tokens.toList_text select.isToken_operation, Tokens.toList_text next.isToken_render,
      laterTexts_cons]
    rfl

theorem render_eq_intercalate (query : Query) :
    query.render config = " ".intercalate (query.first.render config :: query.laterTexts config) := by
  rw [render, Tokens.join_eq, Tokens.toList_append, Tokens.toList_text query.first.isToken_render,
    toList_laterTokens, List.singleton_append]

theorem render_single (select : Select) : render config ⟨select, []⟩ = select.render config := by
  rw [render_eq_intercalate]
  exact String.intercalate_singleton

theorem render_cons (select next : Select) (later : List Select) :
    render config ⟨select, next :: later⟩ =
      select.render config ++ " " ++ select.operation ++ " " ++ render config ⟨next, later⟩ := by
  rw [render_eq_intercalate, render_eq_intercalate, laterTexts_cons, String.intercalate_cons_cons,
    String.intercalate_cons_cons]
  simp only [String.append_assoc]

theorem render_last (first : Select) (later : List Select) (last : Select) (operation : Option String) :
    render config ⟨first, later ++ [{ last with setOperation := operation }]⟩ =
      render config ⟨first, later ++ [last]⟩ := by
  induction later generalizing first with
  | nil =>
    rw [List.nil_append, List.nil_append, render_cons, render_cons, render_single, render_single]
    rfl
  | cons next later ih => rw [List.cons_append, List.cons_append, render_cons, render_cons, ih]

/-- A query of a single select is written as the select. A longer one is written as its first select, the set operation
of that select, which is `UNION` if it has none, and the query of the other selects. A select does not depend on its
set operation, and that of the last select is not written. So a query with `n + 1` selects is written as all of these
in their order, with `n` set operations between them. -/
theorem render_chain (config : Config) :
    (∀ select, render config ⟨select, []⟩ = select.render config) ∧
    (∀ select next later, render config ⟨select, next :: later⟩ =
      select.render config ++ " " ++ (select.setOperation.bind keyword?).getD "UNION" ++ " " ++
        render config ⟨next, later⟩) ∧
    (∀ (select : Select) operation,
      { select with setOperation := operation }.render config = select.render config) ∧
    (∀ first later (last : Select) operation,
      render config ⟨first, later ++ [{ last with setOperation := operation }]⟩ =
        render config ⟨first, later ++ [last]⟩) ∧
    ∀ query : Query, query.operations.length = query.later.length ∧
      query.render config = " ".intercalate (query.first.render config ::
        (query.operations.zip query.later).flatMap fun step => [step.1, step.2.render config]) := by
  refine ⟨render_single, render_cons, Select.render_setOperation, render_last, fun query => ⟨?_, ?_⟩⟩
  · exact query.length_operations
  · exact query.render_eq_intercalate

/-- A set operation with blanks of its own, a blank one, and one that joins nothing. -/
example :
    let star (operation : String) : Select :=
      ⟨none, .star "*", none, none, none, none, none, none, some operation⟩
    render {} ⟨star " union\tall", [star " ", star "except"]⟩ =
      "SELECT * UNION ALL SELECT * UNION SELECT *" := by
  decide +kernel

end Query

end SqlDdl
