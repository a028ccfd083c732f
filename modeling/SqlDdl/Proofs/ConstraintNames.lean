import SqlDdl.Definition.Render
import SqlDdl.Proofs.TokenLists

/-! The name of a constraint in its SQL: a keyword stands before it, unless the constraint has a blank one. -/

namespace SqlDdl.ConstraintDefinition

/-- The tokens of a constraint after its name. -/
def clauseTokens (config : Config) (constraint : ConstraintDefinition) : Tokens :=
  if constraint.isCheck then .text "CHECK" ++ .text (Expr.renderGroup config constraint.exprs)
  else
    .word constraint.kind ++ .opt (constraint.index.map config.quote)
      ++ .opt (constraint.indexKind.map fun kind => kind.words.join)
      ++ .text (Expr.renderGroup config constraint.exprs)
      ++ .part constraint.reference (fun reference => .text (reference.render config))
      ++ renderIndexOptions config constraint.options

/-- The keyword before a name: the one of the constraint, or `CONSTRAINT` if that is absent or blank. -/
def nameKeyword (constraint : ConstraintDefinition) : String :=
  (constraint.keyword.bind keyword?).getD "CONSTRAINT"

variable {config : Config} {constraint : ConstraintDefinition}

theorem toList_tokens : (constraint.tokens config).toList =
    (constraint.nameTokens config).toList ++ (constraint.clauseTokens config).toList := by
  rw [tokens, clauseTokens]
  split
  · simp only [Tokens.toList_append, List.append_assoc]
  · simp only [Tokens.toList_append, List.append_assoc]

theorem isToken_nameKeyword (constraint : ConstraintDefinition) : IsToken constraint.nameKeyword := by
  rw [nameKeyword]
  cases found : constraint.keyword.bind keyword? with
  | none => exact ⟨by decide, by decide⟩
  | some normal =>
    obtain ⟨keyword, _, isNormal⟩ := Option.bind_eq_some_iff.mp found
    exact .keyword isNormal

section Named

variable {name : String}

theorem toList_optName (quotes : config.quoting ≠ .never) (name : String) :
    (Tokens.opt (some (config.quote name))).toList = [config.quote name] :=
  Tokens.toList_text (isToken_quote quotes name)

theorem toList_nameTokens (quotes : config.quoting ≠ .never) (named : nonempty? constraint.name = some name)
    (filled : constraint.keyword.all hasText = true) :
    (constraint.nameTokens config).toList = [constraint.nameKeyword, config.quote name] := by
  have word : IsToken constraint.nameKeyword := constraint.isToken_nameKeyword
  have written := toList_optName quotes name
  simp only [nameTokens, nameKeyword, named, Option.map_some, Tokens.toList_append, written] at word ⊢
  cases shape : constraint.keyword with
  | none => rfl
  | some keyword =>
    rw [shape] at filled
    obtain ⟨normal, isNormal⟩ := exists_keyword?_iff.mpr filled
    simp only [Option.bind_some, isNormal, Option.getD_some]
    rw [Tokens.toList_opt fun text same => Option.some.inj same ▸ .keyword isNormal]
    rfl

theorem toList_nameTokens_blank (quotes : config.quoting ≠ .never)
    (named : nonempty? constraint.name = some name) (blank : constraint.keyword.all hasText = false) :
    (constraint.nameTokens config).toList = [config.quote name] := by
  have written := toList_optName quotes name
  simp only [nameTokens, named, Option.map_some, Tokens.toList_append, written]
  cases shape : constraint.keyword with
  | none =>
    rw [shape] at blank
    cases blank
  | some keyword =>
    rw [shape] at blank
    have none : keyword? keyword = none := keyword?_eq_none_iff_hasText.mpr blank
    simp only [none]
    rfl

end Named

theorem toList_nameTokens_unnamed (unnamed : nonempty? constraint.name = none) :
    (constraint.nameTokens config).toList = (constraint.keyword.bind keyword?).toList := by
  have none : (Tokens.opt none).toList = [] := rfl
  simp only [nameTokens, unnamed, Option.map_none, Tokens.toList_append, none, List.append_nil]
  cases constraint.keyword with
  | none => exact none
  | some keyword => exact Tokens.toList_word keyword

/-- The first token of a constraint with a name is a keyword and the second one the name, if and only if the
constraint has no blank keyword. Without a name no token stands for one. This holds of checks and of all other
constraints. -/
theorem tokens_named_iff (quotes : config.quoting ≠ .never) (constraint : ConstraintDefinition) :
    (∀ name, nonempty? constraint.name = some name →
      hasText constraint.nameKeyword = true ∧
      ((constraint.tokens config).toList =
          constraint.nameKeyword :: config.quote name :: (constraint.clauseTokens config).toList ↔
        constraint.keyword.all hasText = true)) ∧
    (nonempty? constraint.name = none → (constraint.tokens config).toList =
      (constraint.keyword.bind keyword?).toList ++ (constraint.clauseTokens config).toList) := by
  refine ⟨fun name named => ⟨constraint.isToken_nameKeyword.hasText, fun same => ?_, fun filled => ?_⟩,
    fun unnamed => ?_⟩
  · refine Bool.not_eq_false _ |>.mp fun blank => ?_
    rw [toList_tokens, toList_nameTokens_blank quotes named blank] at same
    -- One token is missing.
    have lengths := congrArg List.length same
    simp only [List.length_append, List.length_cons, List.length_nil] at lengths
    omega
  · rw [toList_tokens, toList_nameTokens quotes named filled, List.cons_append, List.singleton_append]
  · rw [toList_tokens, toList_nameTokens_unnamed unnamed]

/-- A check whose name is a reserved word, with a padded keyword. -/
def namedCheck : ConstraintDefinition :=
  ⟨some "check", some " constraint\n", "Check", none, none, [.binary "<" (.column (.named "a")) .null false],
    none, none⟩

theorem namedCheck_tokens :
    Config.quoting {} ≠ .never ∧ nonempty? namedCheck.name = some "check" ∧
      (namedCheck.tokens {}).toList =
        "CONSTRAINT" :: "\"check\"" :: (namedCheck.clauseTokens {}).toList ∧
      nonempty? { namedCheck with name := some "" }.name = none ∧
      ({ namedCheck with name := some "" }.tokens {}).toList =
        ["CONSTRAINT"] ++ (namedCheck.clauseTokens {}).toList := by
  have quotes : Config.quoting {} ≠ .never := by decide
  have named : nonempty? namedCheck.name = some "check" := rfl
  have unnamed : nonempty? { namedCheck with name := some "" }.name = none := rfl
  have filled : namedCheck.keyword.all hasText = true := by decide
  have tokens := ((tokens_named_iff quotes namedCheck).1 "check" named).2.mpr filled
  have word : namedCheck.nameKeyword = "CONSTRAINT" := by decide +kernel
  have quoted : Config.quote {} "check" = "\"check\"" := by decide +kernel
  rw [word, quoted] at tokens
  have others := (tokens_named_iff quotes { namedCheck with name := some "" }).2 unnamed
  exact ⟨quotes, named, tokens, unnamed, others⟩

/-- A key with a name and a blank keyword. -/
def blankKeyword : ConstraintDefinition :=
  ⟨some "k", some "", "primary key", none, none, [.column (.named "a")], none, none⟩

/-- No keyword is left before the name. -/
theorem blankKeyword_unintroduced :
    nonempty? blankKeyword.name = some "k" ∧
      (blankKeyword.tokens {}).toList = ["k", "PRIMARY KEY", "(a)"] ∧
      ¬∃ keyword later, hasText keyword = true ∧ (blankKeyword.tokens {}).toList = keyword :: "k" :: later := by
  have tokens : (blankKeyword.tokens {}).toList = ["k", "PRIMARY KEY", "(a)"] := by decide +kernel
  refine ⟨rfl, tokens, fun ⟨keyword, later, _, same⟩ => ?_⟩
  rw [tokens] at same
  have second : "PRIMARY KEY" = "k" := (List.cons.inj (List.cons.inj same).2).1
  exact absurd second (by decide)

end SqlDdl.ConstraintDefinition
