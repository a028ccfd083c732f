import SqlDdl.Definition.Render
import SqlDdl.Proofs.Induction
import SqlDdl.Proofs.NormalKeywords
import SqlDdl.Proofs.TokenLists
import SqlDdl.Proofs.WordGaps

/-! The spelling of type names and operators. Their letter case makes no difference to the SQL, but they are
written with the blanks that they have, a type name without those at its ends. -/

namespace SqlDdl

/-- Whether a text is a token with single spaces. -/
structure IsPhrase (text : String) : Prop where
  token : IsToken text
  spaces : IsSingleSpaced text.toList

namespace IsPhrase

variable {before middle after : String}

/-- What is between two phrases may have spaces at its ends. -/
theorem between_iff (first : IsPhrase before) (second : IsPhrase after) :
    IsSingleSpaced (before ++ middle ++ after).toList ↔ IsSingleSpaced middle.toList := by
  obtain ⟨c, cs, shape, filled⟩ := second.token.exists_head
  rw [String.toList_append, String.toList_append]
  constructor
  · exact fun spaces => (List.IsChain.left_of_append spaces).right_of_append
  · intro spaces
    have front : IsSingleSpaced (before.toList ++ middle.toList) :=
      first.spaces.append spaces fun x last _ _ space => absurd space (ne_space (first.token.trimmed.2 x last))
    refine front.append second.spaces fun x _ y head _ => ?_
    rw [shape] at head
    exact Option.mem_some.mp head ▸ ne_space filled

theorem before_iff (second : IsPhrase after) :
    IsSingleSpaced (middle ++ after).toList ↔ IsSingleSpaced middle.toList := by
  obtain ⟨c, cs, shape, filled⟩ := second.token.exists_head
  rw [String.toList_append]
  refine ⟨List.IsChain.left_of_append, fun spaces => spaces.append second.spaces fun x _ y head _ => ?_⟩
  rw [shape] at head
  exact Option.mem_some.mp head ▸ ne_space filled

theorem between (first : IsPhrase before) (spaces : IsSingleSpaced middle.toList) (second : IsPhrase after) :
    IsPhrase (before ++ middle ++ after) :=
  ⟨first.token.between second.token, (first.between_iff second).mpr spaces⟩

theorem append (first : IsPhrase before) (second : IsPhrase after) : IsPhrase (before ++ after) := by
  have joined : IsPhrase (before ++ "" ++ after) := first.between List.isChain_nil second
  rwa [String.append_empty] at joined

theorem spaced (first : IsPhrase before) (second : IsPhrase after) : IsPhrase (before ++ " " ++ after) :=
  first.between (List.isChain_singleton ' ') second

theorem ofWord {word : List Char} (isWord : IsWord word) : IsPhrase (String.ofList word) := by
  have chars : (String.ofList word).toList = word := String.toList_ofList
  have each : ∀ c ∈ (String.ofList word).toList, isBlank c = false := chars.symm ▸ isWord.2
  exact ⟨.ofWord (chars.symm ▸ isWord),
    isChain_of_forall_mem each fun _ _ filled space => absurd space (ne_space filled)⟩

theorem parenthesized (inner : IsPhrase middle) : IsPhrase (parenthesized middle) := by
  have opening : IsPhrase "(" := ⟨⟨by decide, by decide⟩, by decide⟩
  have closing : IsPhrase ")" := ⟨⟨by decide, by decide⟩, by decide⟩
  exact opening.between inner.spaces closing

theorem nat (value : Nat) : IsPhrase (toString value) := by
  have neat := isNeat_nat value
  refine ⟨⟨fun none => ?_, neat.isTidy.ends⟩, neat.spaces.imp fun c d apart space other => ?_⟩
  · rw [none] at neat
    exact absurd neat.hasText (by decide)
  · exact apart space (other ▸ List.mem_cons_self)

theorem keyword {text keyword : String} (normal : keyword? text = some keyword) : IsPhrase keyword := by
  refine holds_keyword spaced (fun word split => ?_) normal
  rw [upper, String.toList_ofList]
  exact .ofWord (isWord_of_mem_splitWords split).upperChars

end IsPhrase

/-- Upper case keeps single spaces and makes none. -/
theorem isSingleSpaced_upper {text : String} :
    IsSingleSpaced (upper text).toList ↔ IsSingleSpaced text.toList := by
  rw [toList_upper]
  generalize text.toList = cs
  refine ⟨fun spaces => ?_, IsSingleSpaced.upperChars⟩
  induction cs with
  | nil => exact List.isChain_nil
  | cons c cs ih =>
    rw [upperChars, List.flatMap_cons] at spaces
    refine List.isChain_cons.mpr ⟨fun d head first second => ?_, ih spaces.right_of_append⟩
    -- Two spaces in front would still be there in upper case.
    subst first second
    obtain ⟨rest, rfl⟩ := List.head?_eq_some_iff.mp head
    have front : upperChar ' ' = [' '] := upperChar_blank rfl
    rw [List.flatMap_cons, front] at spaces
    exact (List.isChain_cons.mp spaces).1 ' ' rfl rfl rfl

theorem upper_append (first second : String) : upper (first ++ second) = upper first ++ upper second := by
  rw [← String.toList_inj, String.toList_append, toList_upper, toList_upper, toList_upper, String.toList_append,
    upperChars_append]

theorem isSingleSpaced_join {tokens : Tokens} (each : ∀ text ∈ tokens.toList, IsPhrase text) :
    IsSingleSpaced tokens.join.toList := by
  rw [Tokens.join_eq]
  by_cases none : tokens.toList = []
  · rw [none]
    exact List.isChain_nil
  · exact (holds_intercalate IsPhrase.spaced none each).spaces

theorem parenthesizedIf_inj {wanted : Bool} {first second : String} :
    parenthesizedIf wanted first = parenthesizedIf wanted second ↔ first = second := by
  cases wanted with
  | false => exact Iff.rfl
  | true =>
    simp only [parenthesizedIf, parenthesized, if_true, String.append_left_inj, String.append_right_inj]

section Types

/-- The length and the scale of a type, as they are written. -/
def DataType.size (dataType : DataType) : String :=
  match dataType.length, dataType.scale with
  | some length, some scale => parenthesized (commaList [toString length, toString scale])
  | some length, none => parenthesized (toString length)
  | none, _ => ""

def DataType.suffixTokens (dataType : DataType) : Tokens :=
  .concat ((dataType.suffixes.getD []).map Tokens.word)

/-- The name of a type with its length. -/
def DataType.head (dataType : DataType) : String :=
  upper (trim dataType.name) ++ dataType.size

theorem DataType.render_eq (dataType : DataType) :
    dataType.render = (Tokens.text dataType.head ++ dataType.suffixTokens).join :=
  rfl

theorem DataType.size_cases (dataType : DataType) : dataType.size = "" ∨ IsPhrase dataType.size := by
  rw [size]
  split
  · exact Or.inr (.parenthesized ((IsPhrase.nat _).between (by decide : IsSingleSpaced ", ".toList) (.nat _)))
  · exact Or.inr (.parenthesized (.nat _))
  · exact Or.inl rfl

theorem DataType.isPhrase_suffix {dataType : DataType} {text : String}
    (member : text ∈ dataType.suffixTokens.toList) : IsPhrase text := by
  have words : dataType.suffixTokens.Each IsPhrase := by
    refine .concat fun suffix _ => .opt fun keyword normal => ?_
    have phrase := IsPhrase.keyword normal
    rwa [phrase.token.trimmed.trim_eq]
  exact words.toList text member

theorem trim_eq_empty {text : String} (blank : keyword? text = none) : trim text = "" := by
  have words := splitWords_trim text
  rw [splitWords_eq_nil_iff.mpr (keyword?_eq_none_iff.mp blank)] at words
  have all := splitWords_eq_nil_iff.mp words
  apply String.toList_inj.mp
  cases shape : (trim text).toList with
  | nil => rfl
  | cons c cs =>
    -- The first character would be a blank, but it is not.
    rw [shape] at all
    have filled := (isTrimmed_trim text).1 c (by rw [shape]; rfl)
    rw [all c List.mem_cons_self] at filled
    cases filled

theorem isToken_upper_trim {text keyword : String} (normal : keyword? text = some keyword) :
    IsToken (upper (trim text)) := by
  refine ⟨upper_ne_empty fun none => ?_, ?_⟩
  · rw [← keyword?_trim, none] at normal
    cases normal
  · rw [toList_upper]
    exact (isTrimmed_trim text).upperChars

variable {dataType : DataType} {first second : String}

/-- A type is written after its name, unless that is blank. -/
theorem DataType.render_named {name keyword : String} (normal : keyword? name = some keyword) :
    { dataType with name }.render =
      upper (trim name) ++
        (dataType.size ++ String.join (dataType.suffixTokens.toList.map (" " ++ ·))) := by
  have token : IsToken (upper (trim name) ++ dataType.size) := by
    have named := isToken_upper_trim normal
    rcases dataType.size_cases with none | phrase
    · rwa [none, String.append_empty]
    · have joined : IsToken (upper (trim name) ++ "" ++ dataType.size) := named.between phrase.token
      rwa [String.append_empty] at joined
  show (Tokens.text (upper (trim name) ++ dataType.size) ++ dataType.suffixTokens).join = _
  rw [Tokens.join_eq, Tokens.toList_append, Tokens.toList_text token, List.singleton_append, intercalate_cons,
    String.append_assoc]

theorem DataType.render_eq_iff (same : keyword? first = keyword? second) :
    { dataType with name := first }.render = { dataType with name := second }.render ↔
      upper (trim first) = upper (trim second) := by
  cases normal : keyword? second with
  | none =>
    rw [normal] at same
    have blank : trim first = trim second := by rw [trim_eq_empty same, trim_eq_empty normal]
    rw [render_eq, render_eq, head, head, blank]
    exact iff_of_true rfl rfl
  | some keyword => rw [render_named (same.trans normal), render_named normal, String.append_left_inj]

theorem DataType.isSingleSpaced_render (dataType : DataType) :
    IsSingleSpaced dataType.render.toList ↔ IsSingleSpaced (trim dataType.name).toList := by
  constructor
  · intro spaces
    cases normal : keyword? dataType.name with
    | none =>
      rw [trim_eq_empty normal]
      exact List.isChain_nil
    | some keyword =>
      have named := dataType.render_named normal
      rw [show dataType.render = _ from named, String.toList_append] at spaces
      exact isSingleSpaced_upper.mp (List.IsChain.left_of_append spaces)
  · intro spaces
    have first : dataType.head = "" ∨ IsPhrase dataType.head := by
      cases normal : keyword? dataType.name with
      | none =>
        have blank : upper (trim dataType.name) = "" := by rw [trim_eq_empty normal]; rfl
        rw [head, blank, String.empty_append]
        exact dataType.size_cases
      | some keyword =>
        have named : IsPhrase (upper (trim dataType.name)) :=
          ⟨isToken_upper_trim normal, isSingleSpaced_upper.mpr spaces⟩
        exact Or.inr (dataType.size_cases.elim (fun none => by rwa [head, none, String.append_empty]) named.append)
    rw [render_eq]
    refine isSingleSpaced_join fun text member => ?_
    rw [Tokens.toList_append] at member
    rcases List.mem_append.mp member with inHead | inSuffixes
    · rcases first with none | phrase
      · rw [none] at inHead
        cases inHead
      · rw [Tokens.toList_text phrase.token] at inHead
        exact List.mem_singleton.mp inHead ▸ phrase
    · exact isPhrase_suffix inSuffixes

end Types

section Operators

variable {config : Config} {first second : String}

/-- The bounds of a range are written with one more letter A than a list. -/
theorem count_bounds (low high : String) :
    (low ++ " AND " ++ high).toList.count 'A' = (parenthesized (low ++ ", " ++ high)).toList.count 'A' + 1 := by
  have word : " AND ".toList.count 'A' = 1 := by decide
  have comma : ", ".toList.count 'A' = 0 := by decide
  have opening : "(".toList.count 'A' = 0 := by decide
  have closing : ")".toList.count 'A' = 0 := by decide
  simp only [parenthesized, String.toList_append, List.count_append, word, comma, opening, closing]
  omega

theorem Expr.renderOperand_bounds {right low high : Expr} (pair : right.bounds? = some (low, high))
    (operator : String) : right.renderOperand config operator =
      if isBetween (upper operator) then low.render config ++ " AND " ++ high.render config
      else right.render config := by
  rw [renderOperand, pair]
  cases isBetween (upper operator) <;> rfl

/-- What follows an operator is the same if it has as many letters A. -/
theorem Expr.renderOperand_congr {right : Expr}
    (count : (right.renderOperand config first).toList.count 'A' =
      (right.renderOperand config second).toList.count 'A') :
    right.renderOperand config first = right.renderOperand config second := by
  cases pair : right.bounds? with
  | none =>
    simp only [renderOperand, pair]
    cases isBetween (upper first) <;> cases isBetween (upper second) <;> rfl
  | some bounds =>
    obtain ⟨low, high⟩ := bounds
    have group : right.render config = parenthesized (low.render config ++ ", " ++ high.render config) := by
      rw [eq_of_bounds? pair]
      simp only [render, renderItems, commaList, String.intercalate_cons_cons, String.intercalate_singleton]
    have apart := count_bounds (low.render config) (high.render config)
    rw [← group] at apart
    rw [renderOperand_bounds pair, renderOperand_bounds pair] at count ⊢
    cases range : isBetween (upper first) <;> cases range' : isBetween (upper second)
    · rfl
    · simp only [range, range', Bool.false_eq_true, if_false, if_true] at count
      omega
    · simp only [range, range', Bool.false_eq_true, if_false, if_true] at count
      omega
    · rfl

theorem filter_eq_flatten_splitWords (cs : List Char) :
    cs.filter (!isBlank ·) = (splitWords cs).flatten := by
  induction cs using splitWords_induct with
  | nil => rfl
  | blank c cs blank ih => rw [splitWords_blank blank, ← ih, List.filter_cons_of_neg (by simp [blank])]
  | word word rest isWord ends ih =>
    have kept : word.filter (!isBlank ·) = word :=
      List.filter_eq_self.mpr fun c member => by rw [isWord.2 c member]; rfl
    rw [splitWords_word isWord ends, List.filter_append, kept, ih, List.flatten_cons]

/-- Texts with the same normal form have the same letters in upper case. -/
theorem count_upper (same : keyword? first = keyword? second) {c : Char} (filled : isBlank c = false) :
    (upper first).toList.count c = (upper second).toList.count c := by
  have letters : (upper first).toList.filter (!isBlank ·) = (upper second).toList.filter (!isBlank ·) := by
    rw [toList_upper, toList_upper, filter_eq_flatten_splitWords, filter_eq_flatten_splitWords,
      (gaps_upperChars _).2, (gaps_upperChars _).2, upperWords_eq same]
  have kept : ∀ cs : List Char, (cs.filter (!isBlank ·)).count c = cs.count c := fun cs =>
    List.count_filter (by rw [filled]; rfl)
  rw [← kept, letters, kept]

theorem Expr.render_binary_eq_iff (same : keyword? first = keyword? second) {left right : Expr} {parens : Bool} :
    (binary first left right parens).render config = (binary second left right parens).render config ↔
      upper first = upper second := by
  rw [render_binary, render_binary, parenthesizedIf_inj]
  constructor
  · intro equal
    have operand : right.renderOperand config first = right.renderOperand config second := by
      have counts := congrArg (fun text => text.toList.count 'A') equal
      have operator := count_upper same (c := 'A') rfl
      simp only [String.toList_append, List.count_append, operator] at counts
      exact renderOperand_congr (by omega)
    rw [operand, String.append_left_inj, String.append_left_inj, String.append_right_inj] at equal
    exact equal
  · intro equal
    rw [renderOperand, equal, ← renderOperand]

theorem Expr.unarySign_cases (operator : String) :
    (operator = "-" ∨ operator = "+" ∨ operator = "~") ∧ unarySign operator = operator ∨
      operator = "!" ∧ unarySign operator = "NOT " ∨ unarySign operator = upper operator ++ " " := by
  rw [unarySign]
  split
  · exact Or.inl ⟨‹_›, rfl⟩
  · split
    · exact Or.inr (Or.inl ⟨‹_›, rfl⟩)
    · exact Or.inr (Or.inr rfl)

theorem Expr.unarySign_eq_sign {operator sign : String} (glued : sign = "-" ∨ sign = "+" ∨ sign = "~")
    (same : unarySign operator = sign) : operator = sign := by
  have apart : sign.toList.getLast? ≠ some ' ' := by
    rcases glued with rfl | rfl | rfl <;> decide
  rcases unarySign_cases operator with ⟨_, own⟩ | ⟨_, not⟩ | spaced
  · exact own.symm.trans same
  · rw [← same, not] at apart
    exact absurd rfl apart
  · rw [← same, spaced, String.toList_append] at apart
    exact absurd List.getLast?_concat apart

theorem Expr.unarySign_eq_not {operator : String} (same : unarySign operator = "NOT ") :
    operator = "!" ∨ upper operator = "NOT" := by
  rcases unarySign_cases operator with ⟨glued, own⟩ | ⟨bang, _⟩ | spaced
  · rw [own] at same
    subst same
    exact absurd glued (by decide)
  · exact Or.inl bang
  · rw [spaced] at same
    exact Or.inr ((String.append_left_inj " ").mp same)

/-- What a unary operator is written as tells its upper case, since no other operator that is written as `NOT` is
has the normal form of `!`. -/
theorem Expr.unarySign_eq_iff (same : keyword? first = keyword? second) :
    unarySign first = unarySign second ↔ upper first = upper second := by
  have apart : ∀ {text : String}, keyword? text = keyword? "!" → upper text ≠ "NOT" := by
    intro text bang word
    have words := upperWords_eq bang
    rw [← (gaps_upperChars _).2, ← toList_upper, word] at words
    exact absurd words (by decide)
  constructor
  · intro equal
    rcases unarySign_cases first with ⟨glued, own⟩ | ⟨rfl, not⟩ | spaced
    · rw [unarySign_eq_sign glued (equal.symm.trans own)]
    · rcases unarySign_eq_not (equal.symm.trans not) with rfl | word
      · rfl
      · exact absurd word (apart same.symm)
    · rcases unarySign_cases second with ⟨glued, own⟩ | ⟨rfl, not⟩ | spaced'
      · rw [unarySign_eq_sign glued (equal.trans own)]
      · rcases unarySign_eq_not (equal.trans not) with rfl | word
        · rfl
        · exact absurd word (apart same)
      · rw [spaced, spaced'] at equal
        exact (String.append_left_inj " ").mp equal
  · intro equal
    rw [← unarySign_upper first, equal, unarySign_upper]

theorem Expr.render_unary_eq_iff (same : keyword? first = keyword? second) {operand : Expr} {parens : Bool} :
    (unary first operand parens).render config = (unary second operand parens).render config ↔
      upper first = upper second := by
  simp only [render, applyUnary_eq]
  rw [parenthesizedIf_inj, String.append_left_inj, unarySign_eq_iff same]

/-- Where a unary operator is written with two spaces in a row, it has them or it ends in one. -/
theorem Expr.isSingleSpaced_unarySign (operator : String) :
    IsSingleSpaced (unarySign operator).toList ↔ IsSingleSpaced (operator ++ " ").toList := by
  rcases unarySign_cases operator with ⟨rfl | rfl | rfl, own⟩ | ⟨rfl, not⟩ | spaced
  · decide
  · decide
  · decide
  · decide
  · have space : upper operator ++ " " = upper (operator ++ " ") := by
      rw [upper_append]
      rfl
    rw [spaced, space, isSingleSpaced_upper]

end Operators

/-- Where the name of a type or an operator stands in the SQL. -/
inductive SpellingSite where
  | type (dataType : DataType)
  | binary (left right : Expr) (parens : Bool)
  | unary (operand : Expr) (parens : Bool)

namespace SpellingSite

/-- What is written if the type or the operator has a given text. -/
def render (config : Config) (text : String) : SpellingSite → String
  | type dataType => { dataType with name := text }.render
  | binary left right parens => (Expr.binary text left right parens).render config
  | unary operand parens => (Expr.unary text operand parens).render config

/-- The text with the spaces that separate it from its operands. A type is written without the blanks at its
ends. -/
def around (text : String) : SpellingSite → String
  | type _ => trim text
  | binary .. => " " ++ text ++ " "
  | unary .. => text ++ " "

/-- What is written before and after an operator. -/
def operands (config : Config) (text : String) : SpellingSite → List String
  | type _ => []
  | binary left right _ => [left.render config, right.renderOperand config text]
  | unary operand _ => [operand.render config]

theorem keyword?_around (site : SpellingSite) (text : String) : keyword? (site.around text) = keyword? text := by
  have space : ∀ c ∈ " ".toList, isBlank c = true := by decide
  cases site with
  | type => exact keyword?_trim text
  | binary =>
    apply keyword?_congr
    rw [around, String.toList_append, String.toList_append, splitWords_append_blanks space,
      splitWords_blanks space]
  | unary =>
    apply keyword?_congr
    rw [around, String.toList_append, splitWords_append_blanks space]

variable {config : Config} {first second : String}

theorem render_eq_iff_upper (same : keyword? first = keyword? second) (site : SpellingSite) :
    site.render config first = site.render config second ↔
      upper (site.around first) = upper (site.around second) := by
  cases site with
  | type => exact DataType.render_eq_iff same
  | binary =>
    refine (Expr.render_binary_eq_iff same).trans ?_
    simp only [around, upper_append, String.append_left_inj, String.append_right_inj]
  | unary =>
    refine (Expr.render_unary_eq_iff same).trans ?_
    simp only [around, upper_append, String.append_left_inj]

/-- Two spaces in a row come from the blanks of the type or of the operator, or from its operands. -/
theorem isSingleSpaced_render {text : String} (site : SpellingSite)
    (phrases : ∀ operand ∈ site.operands config text, IsPhrase operand) :
    IsSingleSpaced (site.render config text).toList ↔ IsSingleSpaced (site.around text).toList := by
  have opening : IsPhrase "(" := ⟨⟨by decide, by decide⟩, by decide⟩
  have closing : IsPhrase ")" := ⟨⟨by decide, by decide⟩, by decide⟩
  have inner : ∀ {wanted : Bool} {sql : String},
      IsSingleSpaced (parenthesizedIf wanted sql).toList ↔ IsSingleSpaced sql.toList := by
    intro wanted sql
    cases wanted with
    | false => exact Iff.rfl
    | true => exact opening.between_iff closing
  cases site with
  | type dataType => exact DataType.isSingleSpaced_render { dataType with name := text }
  | binary left right =>
    simp only [operands, List.forall_mem_cons] at phrases
    have spaces : left.render config ++ " " ++ upper text ++ " " ++ right.renderOperand config text =
        left.render config ++ upper (" " ++ text ++ " ") ++ right.renderOperand config text := by
      have space : upper " " = " " := rfl
      rw [upper_append, upper_append, space]
      simp only [String.append_assoc]
    rw [render, Expr.render_binary, inner, spaces, phrases.1.between_iff phrases.2.1, isSingleSpaced_upper]
    rfl
  | unary operand =>
    simp only [operands, List.forall_mem_cons] at phrases
    simp only [render, Expr.render, Expr.applyUnary_eq]
    rw [inner, phrases.1.before_iff, Expr.isSingleSpaced_unarySign]
    rfl

/-- Two spellings of a type or an operator with the same normal form are written alike if and only if they have
the same blanks, apart from those at the ends of a type. A range is written with its bounds if and only if its
operator has the blanks of the normal form. Two spaces in a row are written if and only if the spelling has them or
a space beside an operand. -/
theorem render_eq_iff_gaps (config : Config) {first second : String} (same : keyword? first = keyword? second) :
    (∀ site : SpellingSite, site.render config first = site.render config second ↔
      gaps (site.around first).toList = gaps (site.around second).toList) ∧
    (∀ keyword, keyword? first = some keyword → Expr.isBetween keyword = true → ∀ left low high parens,
      (Expr.binary first left (.list [low, high]) parens).render config =
          parenthesizedIf parens (left.render config ++ " " ++ keyword ++ " " ++
            (low.render config ++ " AND " ++ high.render config)) ↔
        gaps first.toList = gaps keyword.toList) ∧
    ∀ site : SpellingSite, (∀ operand ∈ site.operands config first, IsPhrase operand) →
      (IsSingleSpaced (site.render config first).toList ↔ IsSingleSpaced (site.around first).toList) := by
  refine ⟨fun site => ?_, fun keyword normal between left low high parens => ?_, fun site phrases => ?_⟩
  · have around : keyword? (site.around first) = keyword? (site.around second) := by
      rw [keyword?_around, keyword?_around, same]
    exact (render_eq_iff_upper same site).trans (upper_eq_iff_gaps around)
  · have own : keyword? first = keyword? keyword := by rw [keyword?_keyword normal, normal]
    have upperKeyword : upper keyword = keyword := by
      simp only [Expr.isBetween, Bool.or_eq_true, beq_iff_eq] at between
      rcases between with rfl | rfl <;> rfl
    have range : (Expr.binary keyword left (.list [low, high]) parens).render config =
        parenthesizedIf parens (left.render config ++ " " ++ keyword ++ " " ++
          (low.render config ++ " AND " ++ high.render config)) := by
      simp only [Expr.render, upperKeyword, between, if_true]
    rw [← range, Expr.render_binary_eq_iff own, upper_eq_iff_gaps own]
  · exact isSingleSpaced_render site phrases

/-- A type with letters in either case, and a range whose operator has the blanks of its normal form. -/
theorem mixedCase_render :
    keyword? " Double precision\n" = keyword? "double PRECISION" ∧
      (type ⟨"", some 9, none, some ["un\tsigned"]⟩).render {} " Double precision\n" =
        (type ⟨"", some 9, none, some ["un\tsigned"]⟩).render {} "double PRECISION" ∧
      keyword? "Not between" = keyword? "NOT BETWEEN" ∧
      keyword? "Not between" = some "NOT BETWEEN" ∧ Expr.isBetween "NOT BETWEEN" = true ∧
      (Expr.binary "Not between" .star (.list [.null, .star]) true).render {} = "(* NOT BETWEEN NULL AND *)" ∧
      (∀ operand ∈ (binary .star .null false).operands {} "Not between", IsPhrase operand) ∧
      IsSingleSpaced ((binary .star .null false).render {} "Not between").toList := by
  have sameType : keyword? " Double precision\n" = keyword? "double PRECISION" := by decide +kernel
  have sameRange : keyword? "Not between" = keyword? "NOT BETWEEN" := by decide +kernel
  have normal : keyword? "Not between" = some "NOT BETWEEN" := by decide +kernel
  have phrases : ∀ operand ∈ (binary .star .null false).operands {} "Not between", IsPhrase operand := by
    intro operand member
    rcases List.mem_pair.mp member with rfl | rfl
    · exact ⟨⟨by decide, by decide⟩, by decide⟩
    · exact ⟨⟨by decide +kernel, by decide +kernel⟩, by decide +kernel⟩
  have onType := (render_eq_iff_gaps {} sameType).1 (type ⟨"", some 9, none, some ["un\tsigned"]⟩)
  have onRange := (render_eq_iff_gaps {} sameRange).2
  refine ⟨sameType, onType.mpr (by decide +kernel), sameRange, normal, rfl, ?_, phrases, ?_⟩
  · exact ((onRange.1 _ normal rfl _ _ _ _).mpr (by decide +kernel)).trans (by decide +kernel)
  · exact (onRange.2 _ phrases).mpr (by decide +kernel)

/-- The blanks in a type and the blank after an operator are written as they are. -/
theorem innerBlanks_render :
    keyword? "double  precision" = keyword? "double precision" ∧
      (type ⟨"", none, none, none⟩).render {} "double  precision" = "DOUBLE  PRECISION" ∧
      (type ⟨"", none, none, none⟩).render {} "double precision" = "DOUBLE PRECISION" ∧
      keyword? "between " = keyword? "between" ∧
      (binary .star (.list [.null, .null]) false).render {} "between " = "* BETWEEN  (NULL, NULL)" ∧
      (binary .star (.list [.null, .null]) false).render {} "between" = "* BETWEEN NULL AND NULL" := by
  decide +kernel

end SpellingSite

end SqlDdl
