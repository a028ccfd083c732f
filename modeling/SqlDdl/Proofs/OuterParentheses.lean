import SqlDdl.Proofs.BracketedStatement
import SqlDdl.Proofs.SelectClauses
import SqlDdl.Proofs.Spacing

/-! The expressions that are written between two parentheses which match each other. -/

namespace SqlDdl

section Group

/-- What follows the piece that takes the depth of parentheses to zero. -/
def afterGroup : Nat → List Piece → Option (List Piece)
  | _, [] => none
  | depth, piece :: rest =>
    match nest true depth piece with
    | none => none
    | some 0 => some rest
    | some (deeper + 1) => afterGroup (deeper + 1) rest

/-- Whether a text begins with a parenthesis and the one that matches it is its last character. Quoted tokens do not
count. -/
def IsWrapped (dialect : Dialect) (text : String) : Prop :=
  ∃ rest, dialect.pieces? text.toList = some (.bare '(' :: rest) ∧ afterGroup 1 rest = some []

theorem afterGroup_append {depth : Nat} {front rest : List Piece} (found : afterGroup depth front = some rest)
    (back : List Piece) : afterGroup depth (front ++ back) = some (rest ++ back) := by
  fun_induction afterGroup depth front with
  | case1 => cases found
  | case2 => cases found
  | case3 depth piece after closes =>
    cases found
    rw [List.cons_append, afterGroup, closes]
  | case4 depth piece after deeper stays ih =>
    rw [List.cons_append, afterGroup, stays]
    exact ih found

/-- Pieces that bring the depth back to where it was are passed over. -/
theorem afterGroup_balanced {depth final : Nat} {front : List Piece} (reached : level true depth front = some final)
    (back : List Piece) : afterGroup (depth + 1) (front ++ back) = afterGroup (final + 1) back := by
  induction front generalizing depth with
  | nil =>
    cases reached
    rfl
  | cons piece front ih =>
    obtain ⟨next, first, later⟩ := Option.bind_eq_some_iff.mp reached
    have deeper : nest true (depth + 1) piece = some (next + 1) := nest_succ first
    rw [List.cons_append, afterGroup, deeper]
    exact ih later

/-- A group that is open before some pieces and closed after them is closed by one of them. -/
theorem exists_afterGroup {depth : Nat} {pieces : List Piece} (reached : level true (depth + 1) pieces = some 0) :
    ∃ rest, afterGroup (depth + 1) pieces = some rest := by
  induction pieces generalizing depth with
  | nil => cases reached
  | cons piece pieces ih =>
    obtain ⟨next, first, later⟩ := Option.bind_eq_some_iff.mp reached
    rw [afterGroup, first]
    cases next with
    | zero => exact ⟨pieces, rfl⟩
    | succ deeper => exact ih later

variable {dialect : Dialect}

theorem IsWrapped.parenthesized {text : String} (inside : WellBracketed dialect true text) :
    IsWrapped dialect (parenthesized text) := by
  obtain ⟨pieces, read, reached⟩ := inside.exists_pieces
  refine ⟨_, Dialect.pieces?_parenthesized read, ?_⟩
  rw [afterGroup_balanced reached]
  rfl

/-- A text is not a group if it goes on after a part of it in which all parentheses match. -/
theorem not_isWrapped_append {first second : String} (balanced : WellBracketed dialect true first)
    (filled : first ≠ "") (clear : isClear second.toList = true) (goesOn : second ≠ "") :
    ¬IsWrapped dialect (first ++ second) := by
  rintro ⟨rest, read, closes⟩
  obtain ⟨pieces, front, reached⟩ := balanced.exists_pieces
  rw [String.toList_append, Dialect.pieces?_append front clear] at read
  obtain ⟨later, back, same⟩ := Option.map_eq_some_iff.mp read
  cases pieces with
  | nil => exact filled (String.toList_inj.mp (Dialect.pieces?_chars front).symm)
  | cons piece inner =>
    obtain ⟨rfl, rfl⟩ := List.cons.inj same
    -- What the first parenthesis opens is closed before the second text begins.
    obtain ⟨left, found⟩ := exists_afterGroup reached
    have ends : left ++ later = [] := Option.some.inj ((afterGroup_append found later).symm.trans closes)
    rw [(List.append_eq_nil_iff.mp ends).2] at back
    exact goesOn (String.toList_inj.mp (Dialect.pieces?_chars back).symm)

/-- Whether a text begins with a character that is no opening parenthesis. -/
def OpensOtherwise (text : String) : Prop :=
  ∃ c ∈ text.toList.head?, c ≠ '('

theorem OpensOtherwise.append {first : String} (opens : OpensOtherwise first) (second : String) :
    OpensOtherwise (first ++ second) := by
  obtain ⟨c, head, other⟩ := opens
  refine ⟨c, ?_, other⟩
  rw [String.toList_append, List.head?_append, Option.mem_def.mp head]
  rfl

theorem OpensOtherwise.ofWithout {text : String} (filled : text ≠ "") (clean : Without brackets text) :
    OpensOtherwise text := by
  obtain ⟨c, cs, shape⟩ := List.exists_cons_of_ne_nil (mt String.toList_eq_nil_iff.mp filled)
  have outside : c ∉ brackets := clean c (shape ▸ List.mem_cons_self)
  refine ⟨c, by rw [shape]; rfl, ?_⟩
  rintro rfl
  exact outside (by decide)

theorem OpensOtherwise.enclose {opening : Char} (other : opening ≠ '(') (closing : Char) (value : String) :
    OpensOtherwise (enclose opening closing value) := by
  refine ⟨opening, ?_, other⟩
  rw [SqlDdl.enclose, String.toList_ofList]
  rfl

theorem OpensOtherwise.not_isWrapped {text : String} (opens : OpensOtherwise text) : ¬IsWrapped dialect text := by
  rintro ⟨rest, read, _⟩
  obtain ⟨c, head, other⟩ := opens
  have bare : '(' ∉ quoteMarks := by decide
  have first : text.toList.head? = some '(' := (Dialect.head?_pieces? read bare).mp rfl
  exact other (Option.some.inj ((Option.mem_def.mp head).symm.trans first))

end Group

section Names

variable {config : Config}

theorem foreign_brackets : Foreign brackets := by
  decide

theorem opensOtherwise_quote (quotes : config.quoting ≠ .never) (name : String) :
    OpensOtherwise (config.quote name) := by
  rcases quote_cases quotes name with wrapped | ⟨bare, plain, _⟩
  · have other : config.dialect.openQuote ≠ '(' := by cases config.dialect <;> decide
    rw [wrapped]
    exact .enclose other config.dialect.closeQuote name
  · rw [bare]
    refine .ofWithout ?_ (foreign_brackets.plain plain)
    rintro rfl
    cases plain

theorem ColumnRef.opensOtherwise_render (quotes : config.quoting ≠ .never) (ref : ColumnRef) :
    OpensOtherwise (ref.render config) := by
  simp only [render]
  split
  · rw [String.append_assoc]
    exact (opensOtherwise_quote quotes _).append _
  · split
    · exact ⟨'*', rfl, by decide⟩
    · exact opensOtherwise_quote quotes ref.column

end Names

namespace Expr

/-- Whether the expression is a list. The parentheses of a list do not count as its own. -/
def isList : Expr → Bool
  | list _ => true
  | _ => false

/-- The expression without the parentheses that are its own. -/
def bare : Expr → Expr
  | binary operator left right _ => binary operator left right false
  | unary operator operand _ => unary operator operand false
  | expr => expr

theorem isParenthesized_bare (expr : Expr) : expr.bare.isParenthesized = false := by
  cases expr <;> rfl

theorem isList_bare (expr : Expr) : expr.bare.isList = expr.isList := by
  cases expr <;> rfl

theorem texts_bare (expr : Expr) : expr.bare.texts = expr.texts := by
  cases expr <;> simp only [bare, texts]

theorem isList_of_isParenthesized {expr : Expr} (wrapped : expr.isParenthesized = true) : expr.isList = false := by
  cases expr with
  | list items => cases wrapped
  | _ => rfl

theorem render_eq_parenthesizedIf (config : Config) (expr : Expr) :
    expr.render config = parenthesizedIf expr.isParenthesized (expr.bare.render config) := by
  cases expr with
  | binary operator left right parens =>
    show (binary operator left right parens).render config =
      parenthesizedIf parens ((binary operator left right false).render config)
    rw [render_binary, render_binary]
    rfl
  | unary operator operand parens =>
    show (unary operator operand parens).render config =
      parenthesizedIf parens ((unary operator operand false).render config)
    rw [render, render]
    rfl
  | _ => rfl

variable {config : Config}

theorem wellBracketed_render (quotes : config.quoting ≠ .never) (expr : Expr) (clean : Avoids brackets expr.texts) :
    WellBracketed config.dialect true (expr.render config) := by
  have balanced : WellBracketed config.dialect (true || true) (expr.render config) :=
    (bracketLayout quotes true).expr expr clean
  exact balanced

theorem wellBracketed_renderList (quotes : config.quoting ≠ .never) {items : List Expr}
    (clean : ∀ item ∈ items, Avoids brackets item.texts) :
    WellBracketed config.dialect true (renderList config items) := by
  rcases (bracketLayout quotes true).exprList items clean with none | balanced
  · exact none ▸ .empty
  · exact balanced

theorem unarySign_ne_empty (operator : String) : unarySign operator ≠ "" := by
  rw [unarySign]
  split
  · rename_i sign
    rcases sign with rfl | rfl | rfl <;> decide
  · split
    · decide
    · simp

/-- Whether the names of all functions are given. -/
def NamesCalls (texts : List RoleText) : Prop :=
  ∀ entry ∈ texts, entry.1 = .function ∨ entry.1 = .aggregate → entry.2 ≠ ""

instance instDecidableNamesCalls (texts : List RoleText) : Decidable (NamesCalls texts) :=
  List.decidableBAll (fun entry : RoleText => entry.1 = .function ∨ entry.1 = .aggregate → entry.2 ≠ "") texts

/-- Without parentheses of its own no expression but a list is written as a group: it begins with something else, or
it goes on after its left operand. -/
theorem not_isWrapped_render (quotes : config.quoting ≠ .never) {expr : Expr} (clean : Avoids brackets expr.texts)
    (named : NamesCalls expr.texts) (unwrapped : expr.isParenthesized = false) (single : expr.isList = false) :
    ¬IsWrapped config.dialect (expr.render config) := by
  cases expr with
  | column ref =>
    rw [render]
    exact (ref.opensOtherwise_render quotes).not_isWrapped
  | number value =>
    rw [render]
    exact (OpensOtherwise.ofWithout value.text_ne_empty (foreign_brackets.number value)).not_isWrapped
  | string value =>
    rw [render]
    exact (OpensOtherwise.enclose (by decide) _ value).not_isWrapped
  | quotedString value =>
    rw [render]
    exact (OpensOtherwise.enclose (by decide) _ value).not_isWrapped
  | bool value =>
    rw [render]
    refine OpensOtherwise.not_isWrapped ?_
    cases value with
    | true => exact ⟨'T', rfl, by decide⟩
    | false => exact ⟨'F', rfl, by decide⟩
  | null =>
    rw [render]
    exact OpensOtherwise.not_isWrapped ⟨'N', rfl, by decide⟩
  | star =>
    rw [render]
    exact OpensOtherwise.not_isWrapped ⟨'*', rfl, by decide⟩
  | param name =>
    have colon : OpensOtherwise ":" := ⟨':', rfl, by decide⟩
    rw [render]
    exact (colon.append name).not_isWrapped
  | binary operator left right parens =>
    cases unwrapped
    have inLeft : Avoids brackets left.texts := fun entry member =>
      clean entry (by simp [texts, member])
    have filled : left.render config ≠ "" := by
      intro none
      have text := left.hasText_render quotes
      rw [none] at text
      cases text
    have space : Without quoteMarks " " := by decide
    have goesOn : " " ++ upper operator ++ " " ++ right.renderOperand config operator ≠ "" := by
      simp
    rw [render_binary, parenthesizedIf, if_neg Bool.false_ne_true]
    simp only [String.append_assoc] at goesOn ⊢
    exact not_isWrapped_append (left.wellBracketed_render quotes inLeft) filled
      (isClear_of_without space (by decide) _) goesOn
  | unary operator operand parens =>
    cases unwrapped
    have word : Without brackets operator := clean (.operator, operator) (by simp [texts]) rfl
    have sign : Without brackets (unarySign operator) := foreign_brackets.unarySign word
    rw [render, applyUnary_eq, parenthesizedIf, if_neg Bool.false_ne_true]
    exact ((OpensOtherwise.ofWithout (unarySign_ne_empty operator) sign).append _).not_isWrapped
  | call name args =>
    have filled : name ≠ "" := named (.function, name) (by cases args <;> simp [texts]) (Or.inl rfl)
    have word : Without brackets name := clean (.function, name) (by cases args <;> simp [texts]) rfl
    have start : OpensOtherwise name := .ofWithout filled word
    cases args with
    | none =>
      rw [render]
      exact (start.append _).not_isWrapped
    | some args =>
      rw [render]
      exact (start.append _).not_isWrapped
  | aggregate name argument distinct =>
    have filled : name ≠ "" := named (.aggregate, name) (by simp [texts]) (Or.inr rfl)
    have word : Without brackets name := clean (.aggregate, name) (by simp [texts]) rfl
    have start : OpensOtherwise (upper name) :=
      .ofWithout (upper_ne_empty filled) (word.upper foreign_brackets.signs)
    rw [render]
    exact (start.append _).not_isWrapped
  | list items => cases single

theorem isWrapped_render_list (quotes : config.quoting ≠ .never) {expr : Expr} (clean : Avoids brackets expr.texts)
    (several : expr.isList = true) : IsWrapped config.dialect (expr.render config) := by
  cases expr with
  | list items =>
    rw [texts, itemTexts_eq] at clean
    rw [render]
    exact .parenthesized (wellBracketed_renderList quotes (avoids_flatMap.mp clean))
  | _ => cases several

end Expr

/-- Parentheses that a condition asks for are added around what is written without its own. -/
theorem TriggerCondition.toList_tokens_parenthesized (keyword : String) (expr : Expr) (config : Config) :
    ((TriggerCondition.mk keyword expr true).tokens config).toList =
      (keyword? keyword).toList ++ [SqlDdl.parenthesized (expr.bare.render config)] := by
  have group : parenthesizedIf (true && !expr.isParenthesized) (expr.render config) =
      SqlDdl.parenthesized (expr.bare.render config) := by
    rw [Expr.render_eq_parenthesizedIf]
    cases expr.isParenthesized <;> rfl
  show (Tokens.word keyword ++ .text
    (parenthesizedIf (true && !expr.isParenthesized) (expr.render config))).toList = _
  rw [group, Tokens.toList_append, Tokens.toList_word, Tokens.toList_text (.parenthesized _)]

/-- An expression is told to be parenthesized exactly if it is written as a group, unless it is a list. A condition of
a trigger that asks for parentheses is written as one group, with what the expression is without its own parentheses
inside, and this is a group by itself only if it is a list. -/
theorem Expr.isParenthesized_iff_isWrapped (expr : Expr) (config : Config) (quotes : config.quoting ≠ .never)
    (clean : Avoids brackets expr.texts) (named : NamesCalls expr.texts) :
    ((expr.isParenthesized = true ↔ IsWrapped config.dialect (expr.render config)) ↔ expr.isList = false) ∧
    (∀ keyword, ((TriggerCondition.mk keyword expr true).tokens config).toList =
      (keyword? keyword).toList ++ [parenthesized (expr.bare.render config)]) ∧
    IsWrapped config.dialect (parenthesized (expr.bare.render config)) ∧
    (IsWrapped config.dialect (expr.bare.render config) ↔ expr.isList = true) := by
  have cleanBare : Avoids brackets expr.bare.texts := expr.texts_bare.symm ▸ clean
  have namedBare : NamesCalls expr.bare.texts := expr.texts_bare.symm ▸ named
  have outside : IsWrapped config.dialect (parenthesized (expr.bare.render config)) :=
    .parenthesized (expr.bare.wellBracketed_render quotes cleanBare)
  have inside : IsWrapped config.dialect (expr.bare.render config) ↔ expr.isList = true := by
    rw [← expr.isList_bare]
    refine ⟨fun wrapped => ?_, isWrapped_render_list quotes cleanBare⟩
    by_contra single
    exact not_isWrapped_render quotes cleanBare namedBare expr.isParenthesized_bare
      (Bool.eq_false_iff.mpr single) wrapped
  refine ⟨?_, (TriggerCondition.toList_tokens_parenthesized · expr config), outside, inside⟩
  rw [render_eq_parenthesizedIf]
  cases own : expr.isParenthesized with
  | true => exact iff_of_true (iff_of_true rfl outside) (isList_of_isParenthesized own)
  | false =>
    rw [parenthesizedIf, if_neg Bool.false_ne_true, inside, ← Bool.not_eq_true]
    simp only [Bool.false_eq_true, false_iff]

/-- A comparison that begins with one group and ends with another, with parentheses and quotes in its names. -/
def groupedComparison : Expr :=
  .binary "=" (.binary "or" (.column (.named "a)")) (.quotedString "\"(") true)
    (.list [.string "')", .unary "!" (.column (.named "[b]]")) true]) false

theorem groupedComparison_unwrapped :
    Avoids brackets groupedComparison.texts ∧ Expr.NamesCalls groupedComparison.texts ∧
      groupedComparison.render ⟨.transactSql, .asNeeded⟩ =
        "([a)] OR \"\"\"(\") = (''')', (NOT [[b]]]]]))" ∧
      ¬IsWrapped .transactSql (groupedComparison.render ⟨.transactSql, .asNeeded⟩) ∧
      ((TriggerCondition.mk "when" groupedComparison true).tokens ⟨.transactSql, .asNeeded⟩).toList =
        ["WHEN", "(([a)] OR \"\"\"(\") = (''')', (NOT [[b]]]]])))"] := by
  have clean : Avoids brackets groupedComparison.texts := by decide
  have named : Expr.NamesCalls groupedComparison.texts := by decide
  obtain ⟨truthful, guarded, _⟩ :=
    groupedComparison.isParenthesized_iff_isWrapped ⟨.transactSql, .asNeeded⟩ (by decide) clean named
  have told : groupedComparison.isParenthesized = true ↔ IsWrapped .transactSql _ := truthful.mpr rfl
  refine ⟨clean, named, by decide +kernel, fun wrapped => ?_, ?_⟩
  · cases told.mpr wrapped
  · rw [guarded "when"]
    decide +kernel

/-- A list is written as a group and not told to be parenthesized, so that a condition has two pairs of parentheses. -/
theorem nullList_isWrapped :
    (Expr.list [.null]).isParenthesized = false ∧ (Expr.list [.null]).render {} = "(NULL)" ∧
      IsWrapped .ansi ((Expr.list [.null]).render {}) ∧
      ((TriggerCondition.mk "when" (.list [.null]) true).tokens {}).toList = ["WHEN", "((NULL))"] := by
  have group : (Expr.list [.null]).render {} = parenthesized "NULL" := by decide +kernel
  refine ⟨rfl, by decide +kernel, ?_, by decide +kernel⟩
  rw [group]
  exact .parenthesized (.plain (by decide))

end SqlDdl
