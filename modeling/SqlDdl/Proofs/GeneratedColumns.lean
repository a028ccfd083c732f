import SqlDdl.Proofs.NormalForms
import SqlDdl.Proofs.OptionalClauses

/-! The keywords before the expression of a generated column. They are the words of a value in upper case, and the last
one of them is `AS`, which is added only where it is missing. -/

namespace SqlDdl

/-- Some texts among others may be put together first. -/
theorem intercalate_group (separator : String) (front : List String) {group : List String} (present : group ≠ [])
    (back : List String) : separator.intercalate (front ++ (group ++ back)) =
      separator.intercalate (front ++ separator.intercalate group :: back) := by
  have filled : group ++ back ≠ [] := List.append_ne_nil_of_left_ne_nil present back
  rw [intercalate_append separator front filled, intercalate_append separator front (List.cons_ne_nil _ back)]
  rcases eq_or_ne back [] with rfl | later
  · rw [List.append_nil, String.intercalate_singleton]
  · rw [String.intercalate_append_of_ne_nil present later, String.intercalate_cons_of_ne_nil later]

namespace GeneratedColumn

/-- The words that a value stands for. Without any they are `GENERATED ALWAYS`. -/
def opening (value : Option String) : List String :=
  match value.elim [] words with
  | [] => ["GENERATED", "ALWAYS"]
  | found => found.map upper

/-- The words before the expression. The word `AS` is added unless it is the last one. -/
def phraseWords (value : Option String) : List String :=
  if (opening value).getLast? = some "AS" then opening value else opening value ++ ["AS"]

/-- The phrase before the expression. -/
def phrase (value : Option String) : String :=
  " ".intercalate (phraseWords value)

theorem opening_some {text : String} (filled : words text ≠ []) : opening (some text) = (words text).map upper := by
  obtain ⟨first, later, split⟩ := List.exists_cons_of_ne_nil filled
  rw [opening, Option.elim_some, split]

theorem opening_none {value : Option String} (blank : value.bind keyword? = none) :
    opening value = ["GENERATED", "ALWAYS"] := by
  cases value with
  | none => rfl
  | some text => rw [opening, Option.elim_some, words_eq_nil_iff.mpr blank]

/-- What is written for a value are the words that it stands for. -/
theorem keyword_eq_opening (value : Option String) :
    (value.bind keyword?).getD "GENERATED ALWAYS" = " ".intercalate (opening value) := by
  cases found : value.bind keyword? with
  | none =>
    rw [opening_none found]
    rfl
  | some keyword =>
    obtain ⟨text, rfl, normal⟩ := Option.bind_eq_some_iff.mp found
    obtain ⟨filled, joined⟩ := eq_words_of_keyword? normal
    rw [opening_some filled]
    exact joined

/-- The texts that are added, and the one that an absent value stands for. -/
theorem upper_words_fixed : upper "AS" = "AS" ∧ keyword? "as" = some "AS" ∧
    (words "generated always").map upper = ["GENERATED", "ALWAYS"] := by
  decide +kernel

theorem isKeywordWord_as : IsKeywordWord "AS" :=
  ⟨⟨by decide, by decide⟩, upper_words_fixed.1⟩

/-- A value stands for the words of some text. -/
theorem exists_opening (value : Option String) :
    ∃ text, words text ≠ [] ∧ opening value = (words text).map upper := by
  cases found : value.bind keyword? with
  | none =>
    have spoken := upper_words_fixed.2.2
    refine ⟨"generated always", fun none => ?_, (opening_none found).trans spoken.symm⟩
    rw [none] at spoken
    cases spoken
  | some keyword =>
    obtain ⟨text, rfl, normal⟩ := Option.bind_eq_some_iff.mp found
    obtain ⟨filled, -⟩ := eq_words_of_keyword? normal
    exact ⟨text, filled, opening_some filled⟩

theorem opening_filled (value : Option String) :
    opening value ≠ [] ∧ ∀ word ∈ opening value, IsKeywordWord word := by
  obtain ⟨text, filled, same⟩ := exists_opening value
  rw [same]
  exact ⟨mt List.map_eq_nil_iff.mp filled, fun _ => isKeywordWord_upper⟩

theorem getLast?_phraseWords (value : Option String) : (phraseWords value).getLast? = some "AS" := by
  rw [phraseWords]
  split
  · assumption
  · exact List.getLast?_concat

/-- The phrase is a keyword in its normal form. -/
theorem phrase_normal (value : Option String) :
    words (phrase value) = phraseWords value ∧ keyword? (phrase value) = some (phrase value) := by
  apply keyword?_intercalate
  · intro none
    have last := getLast?_phraseWords value
    rw [none] at last
    cases last
  · obtain ⟨-, each⟩ := opening_filled value
    intro word member
    rw [phraseWords] at member
    split at member
    · exact each word member
    · rcases List.mem_append.mp member with inside | added
      · exact each word inside
      · exact List.mem_singleton.mp added ▸ isKeywordWord_as

/-- The tokens before the expression are the phrase. -/
theorem join_keywords (generated : GeneratedColumn) :
    generated.keywords.toList ≠ [] ∧ " ".intercalate generated.keywords.toList = phrase generated.keyword := by
  obtain ⟨filled, each⟩ := opening_filled generated.keyword
  obtain ⟨split, normal⟩ := keyword?_intercalate filled each
  have ends : (opening generated.keyword).getLast? = some "AS" ↔
      afterLastSpace (" ".intercalate (opening generated.keyword)) = "AS" := by
    rw [← split, getLast?_words_keyword normal, Option.some.injEq, split]
  rw [keywords, keyword_eq_opening, Tokens.toList_append, Tokens.toList_text (.keyword normal), phrase, phraseWords]
  simp only [ends]
  split
  · exact ⟨List.cons_ne_nil _ _, rfl⟩
  · rw [Tokens.toList_text (.ofWord isKeywordWord_as.1),
      String.intercalate_append_of_ne_nil filled (List.cons_ne_nil _ _)]
    exact ⟨List.cons_ne_nil _ _, rfl⟩

/-- The tokens of a generated clause begin with the phrase and the expression. -/
theorem exists_clause (config : Config) (generated : GeneratedColumn) :
    ∃ clause, clause ≠ [] ∧
      (generated.tokens config).toList = clause ++ (Tokens.optWord generated.storage).toList ∧
      " ".intercalate clause = phrase generated.keyword ++ " " ++ parenthesized (generated.expr.render config) := by
  obtain ⟨filled, joined⟩ := join_keywords generated
  refine ⟨generated.keywords.toList ++ [parenthesized (generated.expr.render config)],
    List.append_ne_nil_of_left_ne_nil filled _, ?_, ?_⟩
  · rw [tokens, Tokens.toList_append, Tokens.toList_append, Tokens.toList_text (.parenthesized _)]
  · rw [String.intercalate_append_of_ne_nil filled (List.cons_ne_nil _ _), joined, String.intercalate_singleton]

/-- After a value without a final `AS` such a word may be written. -/
theorem phrase_append {value blanks spelling : String} (filled : words value ≠ [])
    (missing : (words value).getLast?.map upper ≠ some "AS") (present : blanks ≠ "")
    (blank : hasText blanks = false) (last : keyword? spelling = some "AS") :
    phrase (some value) = phrase (some (value ++ blanks ++ spelling)) := by
  have split := words_separated present blank value spelling
  have own : (words spelling).map upper = ["AS"] := by
    rw [← words_keyword last]
    exact (keyword?_intercalate (List.cons_ne_nil _ _) (List.forall_mem_singleton.mpr isKeywordWord_as)).1
  have whole : opening (some (value ++ blanks ++ spelling)) = opening (some value) ++ ["AS"] := by
    have both : words (value ++ blanks ++ spelling) ≠ [] :=
      split.symm ▸ List.append_ne_nil_of_left_ne_nil filled _
    rw [opening_some filled, opening_some both, split, List.map_append, own]
  have without : (opening (some value)).getLast? ≠ some "AS" := by
    rw [opening_some filled, List.getLast?_map]
    exact missing
  rw [phrase, phrase, phraseWords, phraseWords, whole, if_pos List.getLast?_concat, if_neg without]

/-- A value with a final `AS` is the phrase already. -/
theorem keyword?_eq_phrase {value : String} (last : (words value).getLast?.map upper = some "AS") :
    keyword? value = some (phrase (some value)) := by
  have filled : words value ≠ [] := fun none => by
    rw [none] at last
    cases last
  rw [← List.getLast?_map, ← opening_some filled] at last
  rw [phrase, phraseWords, if_pos last, opening_some filled]
  exact keyword?_of_words filled

/-- What an absent or blank value stands for may be written, with its `AS` or without. -/
theorem phrase_none {value : Option String} (blank : value.bind keyword? = none) :
    phrase value = phrase (some "generated always") ∧ phrase value = phrase (some "generated always as") := by
  obtain ⟨-, last, spoken⟩ := upper_words_fixed
  have filled : words "generated always" ≠ [] := fun none => by
    rw [none] at spoken
    cases spoken
  have missing : (words "generated always").getLast?.map upper ≠ some "AS" := by
    rw [← List.getLast?_map, spoken]
    decide
  have same : phrase value = phrase (some "generated always") := by
    rw [phrase, phraseWords, opening_none blank, phrase, phraseWords, opening_some filled, spoken]
  have whole : "generated always" ++ " " ++ "as" = "generated always as" := by decide
  have appended : phrase (some "generated always") = phrase (some ("generated always" ++ " " ++ "as")) :=
    phrase_append filled missing (by decide) (by decide) last
  rw [whole] at appended
  exact ⟨same, same.trans appended⟩

end GeneratedColumn

namespace ColumnDefinition

open GeneratedColumn

variable {config : Config} {column : ColumnDefinition} {generated : GeneratedColumn}

/-- The column with a generated clause that has some value. -/
def withGenerated (column : ColumnDefinition) (generated : GeneratedColumn) (value : Option String) :
    ColumnDefinition :=
  { column with generated := some { generated with keyword := value } }

/-- The SQL of a column with a generated clause, by the value of the clause. -/
def generatedSql (config : Config) (column : ColumnDefinition) (generated : GeneratedColumn) (value : Option String) :
    Except Error String :=
  ((column.withGenerated generated value).tokens config).map Tokens.join

/-- The phrase and the expression stand between texts that do not depend on the value, unless a field of the column has
no rendering. -/
theorem generatedSql_eq (config : Config) (column : ColumnDefinition) (generated : GeneratedColumn) :
    ∃ before after, ∀ value, column.generatedSql config generated value = column.unsupportedField?.elim
      (.ok (" ".intercalate
        (before ++ (phrase value ++ " " ++ parenthesized (generated.expr.render config)) :: after)))
      fun field => .error (.unsupported "CREATE TABLE" "column field" field) := by
  cases supported : column.unsupportedField? with
  | some field =>
    -- Nothing is written, so that any texts will do.
    refine ⟨[], [], fun value => ?_⟩
    have extra : (column.withGenerated generated value).unsupportedField? = some field := supported
    rw [generatedSql, tokens, extra]
    rfl
  | none =>
    have written : Tokens.ofParts (parts.map (· config column)) = .ok (column.fieldTokens config) := by
      rw [← tokens_eq_ofParts, tokens, supported]
    obtain ⟨before, after, around⟩ := OptClause.generated.isPartOf.exists_around written
    refine ⟨before.toList, (Tokens.optWord generated.storage).toList ++ after.toList, fun value => ?_⟩
    obtain ⟨clause, filled, list, text⟩ := exists_clause config { generated with keyword := value }
    have own : (column.withGenerated generated value).tokens config =
        .ok (before ++ ({ generated with keyword := value }.tokens config ++ after)) := by
      rw [tokens_eq_ofParts]
      exact around (some { generated with keyword := value }) _ rfl
    rw [generatedSql, own, Option.elim_none, ← text, ← intercalate_group _ _ filled, ← List.append_assoc clause, ← list,
      ← Tokens.toList_append, ← Tokens.toList_append]
    rfl

/-- The value has no effect but by the phrase. -/
theorem generatedSql_congr {first second : Option String} (same : phrase first = phrase second) :
    column.generatedSql config generated first = column.generatedSql config generated second := by
  obtain ⟨before, after, written⟩ := generatedSql_eq config column generated
  rw [written, written, same]

/-- Before the expression of a generated column stands a keyword that ends with the word `AS`. It makes no difference
whether a value has that word at its end, in any spelling, and a value with it gets no other one. A value that is absent
or blank stands for `generated always`. -/
theorem generatedSql_as (config : Config) (column : ColumnDefinition) (generated : GeneratedColumn) :
    (∃ before after, ∀ value, column.generatedSql config generated value = column.unsupportedField?.elim
      (.ok (" ".intercalate
        (before ++ (phrase value ++ " " ++ parenthesized (generated.expr.render config)) :: after)))
      fun field => .error (.unsupported "CREATE TABLE" "column field" field)) ∧
    (∀ value, keyword? (phrase value) = some (phrase value) ∧ (words (phrase value)).getLast? = some "AS") ∧
    (∀ value blanks spelling, hasText value = true → (words value).getLast?.map upper ≠ some "AS" →
      blanks ≠ "" → hasText blanks = false → keyword? spelling = some "AS" →
      column.generatedSql config generated (some value) =
        column.generatedSql config generated (some (value ++ blanks ++ spelling))) ∧
    (∀ value, (words value).getLast?.map upper = some "AS" → keyword? value = some (phrase (some value))) ∧
    ∀ value, value.bind keyword? = none →
      column.generatedSql config generated value = column.generatedSql config generated (some "generated always") ∧
      column.generatedSql config generated value =
        column.generatedSql config generated (some "generated always as") := by
  refine ⟨generatedSql_eq config column generated, fun value => ?_,
    fun value blanks spelling filled missing present blank last => ?_,
    fun value => keyword?_eq_phrase, fun value blank => ?_⟩
  · obtain ⟨split, normal⟩ := phrase_normal value
    exact ⟨normal, split ▸ getLast?_phraseWords value⟩
  · have found : words value ≠ [] := fun none => by
      rw [keyword?_eq_none_iff_hasText.mp (words_eq_nil_iff.mp none)] at filled
      cases filled
    exact generatedSql_congr (phrase_append found missing present blank last)
  · obtain ⟨without, whole⟩ := phrase_none blank
    exact ⟨generatedSql_congr without, generatedSql_congr whole⟩

/-- The expression of a column that is computed from another one. -/
def quantityClause : GeneratedColumn :=
  ⟨none, .column (.named "qty"), some "stored"⟩

/-- A value may have blanks of any kind, and the last `AS` may be written with a long s. -/
theorem generatedSql_paddedValues :
    (∃ before after, ∀ value, (named "total" "int").generatedSql {} quantityClause value =
      .ok (" ".intercalate (before ++ (phrase value ++ " " ++ parenthesized "qty") :: after))) ∧
    (named "total" "int").generatedSql {} quantityClause (some " generated\talways ") =
      (named "total" "int").generatedSql {} quantityClause (some (" generated\talways " ++ "\u2003" ++ "a\u017f ")) ∧
    keyword? "gas  as" = some (phrase (some "gas  as")) ∧
    (named "total" "int").generatedSql {} quantityClause (some " ") =
      (named "total" "int").generatedSql {} quantityClause (some "generated always as") := by
  obtain ⟨written, -, added, last, blank⟩ := generatedSql_as {} (named "total" "int") quantityClause
  have missing : (words " generated\talways ").getLast?.map upper ≠ some "AS" := by decide +kernel
  refine ⟨written, added _ "\u2003" "a\u017f " (by decide) missing (by decide) (by decide) (by decide +kernel),
    last "gas  as" (by decide +kernel), (blank (some " ") (by decide +kernel)).2⟩

end ColumnDefinition

end SqlDdl
