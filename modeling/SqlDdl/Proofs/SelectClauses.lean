import SqlDdl.Proofs.JoinedTables
import SqlDdl.Proofs.SetOperations

/-! The clauses of a select in its SQL: each keyword has an operand after it that is not blank, unless the select takes
its rows from an empty list of tables. -/

namespace SqlDdl

section Filled

variable {config : Config}

theorem hasText_append (first second : String) :
    hasText (first ++ second) = (hasText first || hasText second) := by
  rw [hasText, String.toList_append, List.any_append]
  rfl

theorem hasText_parenthesizedIf (wanted : Bool) {text : String} (filled : hasText text = true) :
    hasText (parenthesizedIf wanted text) = true := by
  cases wanted with
  | true => exact (IsToken.parenthesized text).hasText
  | false => exact filled

theorem Number.hasText_text (value : Number) : hasText value.text = true := by
  have blanks : ∀ n ∈ blankPoints, isNumberPart (Char.ofNat n) = false := by decide
  refine (IsToken.ofWord ⟨fun none => ?_, fun c member => ?_⟩).hasText
  · exact value.text_ne_empty (String.toList_eq_nil_iff.mp none)
  · exact isBlank_eq_false blanks (value.isNumberPart_text c member)

/-- No expression is written as a blank text, whatever its texts are. -/
theorem Expr.hasText_render (quotes : config.quoting ≠ .never) (expr : Expr) :
    hasText (expr.render config) = true := by
  induction expr using Expr.induct with
  | column ref =>
    rw [render]
    exact (ref.isToken_render quotes).hasText
  | number value =>
    rw [render]
    exact value.hasText_text
  | string value =>
    rw [render]
    exact (IsToken.enclose rfl rfl value).hasText
  | quotedString value =>
    rw [render]
    exact (IsToken.enclose rfl rfl value).hasText
  | bool value =>
    rw [render]
    cases value <;> rfl
  | null | star =>
    rw [render]
    rfl
  | param name =>
    have colon : hasText ":" = true := rfl
    rw [render, hasText_append, colon, Bool.true_or]
  | binary operator left right parens ihLeft ihRight =>
    rw [render_binary]
    apply hasText_parenthesizedIf
    simp only [hasText_append, ihLeft, Bool.true_or]
  | unary operator operand parens ih =>
    rw [render, applyUnary_eq]
    apply hasText_parenthesizedIf
    rw [hasText_append, ih, Bool.or_true]
  | callBare name =>
    have group : hasText "()" = true := rfl
    rw [render, hasText_append, group, Bool.or_true]
  | call name args =>
    rw [render, hasText_append, (IsToken.parenthesized _).hasText, Bool.or_true]
  | aggregate name argument distinct =>
    rw [render, hasText_append, (IsToken.parenthesized _).hasText, Bool.or_true]
  | list items =>
    rw [render]
    exact (IsToken.parenthesized _).hasText

theorem hasText_commaList {α : Type} {text : α → String} {items : List α} (present : items ≠ [])
    (each : ∀ item ∈ items, hasText (text item) = true) : hasText (commaList (items.map text)) = true := by
  have glue : ∀ {first second : String}, hasText first = true → hasText second = true →
      hasText (first ++ ", " ++ second) = true := fun before _ => by
    rw [hasText_append, hasText_append, before, Bool.true_or, Bool.true_or]
  have texts : ∀ text' ∈ items.map text, hasText text' = true := List.forall_mem_map.mpr each
  exact @holds_intercalate (hasText · = true) _ _ glue (mt List.map_eq_nil_iff.mp present) texts

theorem Expr.hasText_renderList (quotes : config.quoting ≠ .never) {items : List Expr} (present : items ≠ []) :
    hasText (renderList config items) = true := by
  rw [renderList, renderItems_eq_map]
  exact hasText_commaList present fun item _ => item.hasText_render quotes

theorem Tables.hasText_render (quotes : config.quoting ≠ .never) {tables : Tables}
    (present : tables.toList ≠ []) : hasText (tables.render config) = true := by
  obtain ⟨first, later, shape⟩ := List.exists_cons_of_ne_nil present
  rw [render, shape]
  show hasText (first.render config ++ String.join (later.map (TableRef.renderNext config))) = true
  rw [hasText_append, (first.isToken_render quotes).hasText, Bool.true_or]

theorem SelectColumn.hasText_render (quotes : config.quoting ≠ .never) (column : SelectColumn) :
    hasText (column.render config) = true := by
  rw [render, withAlias]
  split
  · simp only [hasText_append, column.expr.hasText_render quotes, Bool.true_or]
  · exact column.expr.hasText_render quotes

/-- A token that is not blank is written without the blanks at its ends. -/
theorem Tokens.toList_text_filled {value : String} (filled : hasText value = true) :
    (text value).toList = [trim value] := by
  show [trim value].filter hasText = [trim value]
  rw [List.filter_cons_of_pos (hasText_trim filled), List.filter_nil]

theorem OrderItem.hasText_render (quotes : config.quoting ≠ .never) (item : OrderItem) :
    hasText (item.render config) = true := by
  have filled : hasText (item.expr.render config) = true := item.expr.hasText_render quotes
  rw [render, Tokens.join_eq, Tokens.toList_append, Tokens.toList_text_filled filled, List.singleton_append,
    intercalate_cons, hasText_append, hasText_trim filled, Bool.true_or]

end Filled

/-- The text without the blanks at its end. -/
def trimEnd (text : String) : String :=
  String.ofList (text.toList.reverse.dropWhile isBlank).reverse

theorem hasText_trimEnd {text : String} (filled : hasText text = true) : hasText (trimEnd text) = true := by
  have letter : text.toList.all isBlank = false := by
    rw [List.all_eq_not_any_not, ← hasText, filled]
    rfl
  rw [hasText, trimEnd, String.toList_ofList, List.any_reverse, List.any_dropWhile, List.all_reverse, letter]
  rfl

/-- Trimming takes nothing away from a word that stands before a text. -/
theorem trim_append {word text : String} (token : IsToken word) (filled : hasText text = true) :
    trim (word ++ " " ++ text) = word ++ " " ++ trimEnd text := by
  obtain ⟨c, cs, shape, letter⟩ := token.exists_head
  have starts : isBlank c ≠ true := by simp [letter]
  have kept : (text.toList.reverse.dropWhile isBlank).isEmpty = false := by
    have present := hasText_trimEnd filled
    cases rest : text.toList.reverse.dropWhile isBlank with
    | cons => rfl
    | nil =>
      rw [trimEnd, rest] at present
      cases present
  apply String.toList_inj.mp
  simp only [trim, trimChars, trimEnd, String.toList_append, String.toList_ofList, shape, List.cons_append,
    List.dropWhile_cons_of_neg starts]
  rw [← List.cons_append, List.reverse_append, List.dropWhile_append, kept, if_neg Bool.false_ne_true,
    List.reverse_append, List.reverse_reverse]
  rfl

/-- Groups of texts are put together first, and then all of them. -/
theorem intercalate_flatten {separator : String} {groups : List (List String)}
    (present : ∀ group ∈ groups, group ≠ []) :
    separator.intercalate groups.flatten = separator.intercalate (groups.map separator.intercalate) := by
  induction groups with
  | nil => rfl
  | cons group groups ih =>
    obtain ⟨first, later⟩ := List.forall_mem_cons.mp present
    cases groups with
    | nil => rw [List.flatten_singleton, List.map_singleton, String.intercalate_singleton]
    | cons next rest =>
      have filled : (next :: rest).flatten ≠ [] := by
        rw [List.flatten_cons]
        exact List.append_ne_nil_of_left_ne_nil (later next List.mem_cons_self) _
      rw [List.flatten_cons, String.intercalate_append_of_ne_nil first filled, ih later]
      exact String.intercalate_cons_cons.symm

/-- The operand of a limit: how many rows are taken, and from where on if there are two values. -/
def Limit.operand? (config : Config) (limit : Limit) : Option String :=
  match limit.values.map (Expr.render config) with
  | [] => none
  | [count] => some count
  | first :: second :: _ =>
    some (if limit.separator.bind keyword? = some "OFFSET" then first ++ " OFFSET " ++ second
      else first ++ ", " ++ second)

theorem Limit.render?_eq (config : Config) (limit : Limit) :
    limit.render? config = (limit.operand? config).map ("LIMIT " ++ ·) := by
  rw [render?, operand?]
  rcases limit.values.map (Expr.render config) with _ | ⟨first, _ | ⟨second, _⟩⟩
  · rfl
  · rfl
  · by_cases offset : limit.separator.bind keyword? = some "OFFSET"
    · simp only [if_pos offset, Option.map_some, String.append_assoc]
    · simp only [if_neg offset, Option.map_some, String.append_assoc]

theorem Limit.hasText_operand {config : Config} (quotes : config.quoting ≠ .never) {limit : Limit}
    {operand : String} (written : limit.operand? config = some operand) : hasText operand = true := by
  have values : ∀ text ∈ limit.values.map (Expr.render config), hasText text = true :=
    List.forall_mem_map.mpr fun expr _ => expr.hasText_render quotes
  rw [operand?] at written
  split at written
  · cases written
  · rename_i shape
    cases written
    exact values operand (by simp [shape])
  · rename_i first second _ shape
    have filled : hasText first = true := values first (by simp [shape])
    cases written
    split
    · simp only [hasText_append, filled, Bool.true_or]
    · simp only [hasText_append, filled, Bool.true_or]

/-- Whether there is something to be selected. -/
def SelectColumns.isFilled : SelectColumns → Bool
  | star text => hasText text
  | list columns => !columns.isEmpty

theorem SelectColumns.hasText_render {config : Config} (quotes : config.quoting ≠ .never)
    {columns : SelectColumns} (filled : columns.isFilled = true) : hasText (columns.render config) = true := by
  cases columns with
  | star text => exact filled
  | list columns =>
    have present : columns ≠ [] := by
      rintro rfl
      cases filled
    exact hasText_commaList present fun column _ => column.hasText_render quotes

namespace Select

/-- A clause of a select as it is written: its keyword, and its operand unless the clause is absent. -/
structure Clause where
  keyword : String
  operand : Option String

/-- The SQL of a clause. An absent one has none. -/
def Clause.text? (clause : Clause) : Option String :=
  clause.operand.map (clause.keyword ++ " " ++ ·)

/-- The keyword before the columns of a select. -/
def keyword (select : Select) : String :=
  " ".intercalate ("SELECT" :: (select.distinct.bind (Marker.keyword? "DISTINCT")).toList)

/-- The clause of the tables of a select. With an empty list it is absent. -/
def sourceClause (config : Config) (select : Select) : Clause :=
  ⟨"FROM", (select.source.filter (!·.toList.isEmpty)).map fun tables => trim (tables.render config)⟩

/-- The clauses of a select after its tables. One with an empty list is absent. -/
def laterClauses (config : Config) (select : Select) : List Clause := [
  ⟨"WHERE", select.condition.map fun expr => trim (expr.render config)⟩,
  ⟨"GROUP BY", (select.groupBy.filter (!·.isEmpty)).map fun items => trim (Expr.renderList config items)⟩,
  ⟨"HAVING", select.having.map fun expr => trim (expr.render config)⟩,
  ⟨"ORDER BY", (select.orderBy.filter (!·.isEmpty)).map fun items =>
    trim (commaList (items.map (OrderItem.render config)))⟩,
  ⟨"LIMIT", (select.limit.bind (Limit.operand? config)).map trimEnd⟩]

/-- The clauses of a select in their order. One with an empty list is absent. -/
def clauses (config : Config) (select : Select) : List Clause :=
  ⟨select.keyword, some (trim (select.columns.render config))⟩ :: select.sourceClause config ::
    select.laterClauses config

variable {config : Config}

/-- The tokens of a part of a select as one text, unless there is none. -/
def partText? (tokens : Tokens) : Option String :=
  if tokens.toList = [] then none else some tokens.join

theorem partText?_of_ne_nil {tokens : Tokens} (present : tokens.toList ≠ []) :
    partText? tokens = some tokens.join :=
  if_neg present

theorem intercalate_parts (parts : List Tokens) :
    " ".intercalate (parts.flatMap Tokens.toList) = " ".intercalate (parts.filterMap partText?) := by
  have texts : parts.filterMap partText? =
      ((parts.map Tokens.toList).filter (!·.isEmpty)).map " ".intercalate := by
    induction parts with
    | nil => rfl
    | cons part parts ih =>
      rw [List.filterMap_cons, List.map_cons, List.filter_cons, partText?]
      cases shape : part.toList with
      | nil => simpa using ih
      | cons first later => simpa [Tokens.join_eq, shape] using ih
  have present : ∀ group ∈ (parts.map Tokens.toList).filter (!·.isEmpty), group ≠ [] := by
    intro group member
    simpa using (List.mem_filter.mp member).2
  rw [texts, ← intercalate_flatten present, List.flatten_filter_not_isEmpty, List.flatMap_def]

theorem toList_clause {keyword operand : String} (token : IsToken keyword)
    (filled : hasText operand = true) : (clause keyword operand).toList = [keyword, trim operand] := by
  rw [clause, Tokens.toList_append, Tokens.toList_text token, Tokens.toList_text_filled filled]
  rfl

theorem ne_nil_of_filter {α : Type} {value : Option (List α)} {items : List α}
    (found : value.filter (!·.isEmpty) = some items) : items ≠ [] := by
  simpa using (Option.filter_eq_some_iff.mp found).2

/-- A part with a keyword is written as a clause if its operand is never blank. -/
theorem partText?_part {α : Type} {keyword : String} (token : IsToken keyword) {text : α → String}
    {value : Option α} (filled : ∀ found, value = some found → hasText (text found) = true) :
    partText? (.part value fun found => clause keyword (text found)) =
      Clause.text? ⟨keyword, value.map fun found => trim (text found)⟩ := by
  cases value with
  | none => rfl
  | some found =>
    have written := toList_clause token (filled found rfl)
    rw [Tokens.part, partText?_of_ne_nil (by rw [written]; exact List.cons_ne_nil _ _), Tokens.join_eq, written,
      String.intercalate_cons_cons, String.intercalate_singleton]
    rfl

theorem isToken_distinct {select : Select} {text : String}
    (written : select.distinct.bind (Marker.keyword? "DISTINCT") = some text) : IsToken text := by
  obtain ⟨marker, _, keyword⟩ := Option.bind_eq_some_iff.mp written
  cases marker with
  | flag isSet =>
    cases isSet with
    | true =>
      cases keyword
      exact ⟨by decide, by decide⟩
    | false => cases keyword
  | text text => exact .keyword keyword

/-- The tokens of a select before its first clause that may be absent. -/
def headTokens (config : Config) (select : Select) : Tokens :=
  .text "SELECT" ++ .marker "DISTINCT" select.distinct ++ .text (select.columns.render config)

theorem partText?_head (quotes : config.quoting ≠ .never) {select : Select}
    (filled : select.columns.isFilled = true) :
    partText? (select.headTokens config) =
      Clause.text? ⟨select.keyword, some (trim (select.columns.render config))⟩ := by
  have start : (Tokens.text "SELECT").toList = ["SELECT"] := rfl
  have written : (select.headTokens config).toList =
      ("SELECT" :: (select.distinct.bind (Marker.keyword? "DISTINCT")).toList) ++
        [trim (select.columns.render config)] := by
    rw [headTokens, Tokens.toList_append, Tokens.toList_append, start, Tokens.marker,
      Tokens.toList_opt fun _ => isToken_distinct,
      Tokens.toList_text_filled (select.columns.hasText_render quotes filled)]
    rfl
  have present : (select.headTokens config).toList ≠ [] := by
    rw [written]
    exact List.cons_ne_nil _ _
  rw [partText?_of_ne_nil present, Tokens.join_eq, written,
    String.intercalate_append_of_ne_nil (List.cons_ne_nil _ _) (List.cons_ne_nil _ _),
    String.intercalate_singleton]
  rfl

theorem partText?_limit (quotes : config.quoting ≠ .never) (limit : Option Limit) :
    partText? (.opt (limit.bind (Limit.render? config))) =
      Clause.text? ⟨"LIMIT", (limit.bind (Limit.operand? config)).map trimEnd⟩ := by
  have same : limit.bind (Limit.render? config) =
      (limit.bind (Limit.operand? config)).map ("LIMIT" ++ " " ++ ·) := by
    cases limit with
    | none => rfl
    | some limit => exact limit.render?_eq config
  rw [same]
  cases written : limit.bind (Limit.operand? config) with
  | none => rfl
  | some operand =>
    obtain ⟨_, _, found⟩ := Option.bind_eq_some_iff.mp written
    have filled : hasText operand = true := Limit.hasText_operand quotes found
    have token : hasText ("LIMIT" ++ " " ++ operand) = true := by
      rw [hasText_append, filled, Bool.or_true]
    have list := Tokens.toList_text_filled token
    rw [trim_append ⟨by decide, by decide⟩ filled] at list
    show partText? (.text ("LIMIT" ++ " " ++ operand)) = _
    rw [partText?_of_ne_nil (by rw [list]; exact List.cons_ne_nil _ _), Tokens.join_eq, list,
      String.intercalate_singleton]
    rfl

/-- The tokens of the tables of a select. -/
def sourceTokens (config : Config) (select : Select) : Tokens :=
  .part select.source fun tables => clause "FROM" (tables.render config)

/-- The tokens of the clauses of a select after its tables. -/
def laterParts (config : Config) (select : Select) : List Tokens := [
  .part select.condition (fun expr => clause "WHERE" (expr.render config)),
  .part (select.groupBy.filter (!·.isEmpty)) (fun items => clause "GROUP BY" (Expr.renderList config items)),
  .part select.having (fun expr => clause "HAVING" (expr.render config)),
  .part (select.orderBy.filter (!·.isEmpty))
    (fun items => clause "ORDER BY" (commaList (items.map (OrderItem.render config)))),
  .opt (select.limit.bind (Limit.render? config))]

theorem toList_tokens (select : Select) : (select.tokens config).toList =
    (select.headTokens config :: select.sourceTokens config :: select.laterParts config).flatMap
      Tokens.toList := by
  simp only [tokens, headTokens, sourceTokens, laterParts, Tokens.toList_append, List.flatMap_cons,
    List.flatMap_nil, List.append_nil, List.append_assoc]

theorem partText?_laterParts (quotes : config.quoting ≠ .never) (select : Select) :
    (select.laterParts config).filterMap partText? =
      (select.laterClauses config).filterMap Clause.text? := by
  have expr (keyword : String) (token : IsToken keyword) (part : Option Expr) :=
    partText?_part token fun expr (_ : part = some expr) => expr.hasText_render quotes
  have condition := expr "WHERE" ⟨by decide, by decide⟩ select.condition
  have groupBy := partText?_part (show IsToken "GROUP BY" from ⟨by decide, by decide⟩)
    fun items (found : select.groupBy.filter (!·.isEmpty) = some items) =>
      Expr.hasText_renderList quotes (ne_nil_of_filter found)
  have having := expr "HAVING" ⟨by decide, by decide⟩ select.having
  have orderBy := partText?_part (show IsToken "ORDER BY" from ⟨by decide, by decide⟩)
    fun items (found : select.orderBy.filter (!·.isEmpty) = some items) =>
      hasText_commaList (ne_nil_of_filter found) fun item _ => OrderItem.hasText_render quotes item
  have each : (select.laterParts config).map partText? = (select.laterClauses config).map Clause.text? := by
    simp only [laterParts, laterClauses, List.map_cons, List.map_nil, condition, groupBy, having, orderBy,
      partText?_limit quotes]
  have joined := congrArg (List.filterMap id) each
  simpa only [List.filterMap_map, Function.id_comp] using joined

/-- A select is written as its columns, its tables and its other clauses. -/
theorem render_eq_clauses (quotes : config.quoting ≠ .never) {select : Select}
    (filled : select.columns.isFilled = true) :
    select.render config = " ".intercalate
      ((select.keyword ++ " " ++ trim (select.columns.render config)) ::
        ((partText? (select.sourceTokens config)).toList ++
          (select.laterClauses config).filterMap Clause.text?)) := by
  rw [render, Tokens.join_eq, toList_tokens, intercalate_parts,
    List.filterMap_cons_some (partText?_head quotes filled), ← partText?_laterParts quotes]
  cases shape : partText? (select.sourceTokens config) with
  | none => rw [List.filterMap_cons_none shape, Option.toList_none, List.nil_append]
  | some text => rw [List.filterMap_cons_some shape, Option.toList_some, List.singleton_append]

theorem all_hasText_map {α : Type} {text : α → String} {value : Option α}
    (filled : ∀ found, value = some found → hasText (text found) = true) :
    (value.map fun found => trim (text found)).all hasText = true := by
  cases value with
  | none => rfl
  | some found =>
    rw [Option.map_some, Option.all_some]
    exact hasText_trim (filled found rfl)

/-- No clause has a blank operand. -/
theorem all_hasText_clauses (quotes : config.quoting ≠ .never) {select : Select}
    (filled : select.columns.isFilled = true) :
    ∀ clause ∈ select.clauses config, clause.operand.all hasText = true := by
  have expr (part : Option Expr) := all_hasText_map fun expr (_ : part = some expr) => expr.hasText_render quotes
  simp only [clauses, laterClauses, List.forall_mem_cons, Option.all_some]
  refine ⟨?columns, ?source, expr select.condition, ?groupBy, expr select.having, ?orderBy, ?limit, ?none⟩
  case columns => exact hasText_trim (select.columns.hasText_render quotes filled)
  case source =>
    refine all_hasText_map fun tables found => Tables.hasText_render quotes ?_
    simpa using (Option.filter_eq_some_iff.mp found).2
  case groupBy => exact all_hasText_map fun items found => Expr.hasText_renderList quotes (ne_nil_of_filter found)
  case orderBy =>
    exact all_hasText_map fun items found =>
      hasText_commaList (ne_nil_of_filter found) fun item _ => OrderItem.hasText_render quotes item
  case limit =>
    refine (Option.all_eq_true _ _).mpr fun text same => ?_
    obtain ⟨operand, written, rfl⟩ := Option.map_eq_some_iff.mp same
    obtain ⟨_, _, found⟩ := Option.bind_eq_some_iff.mp written
    exact hasText_trimEnd (Limit.hasText_operand quotes found)
  case none => exact fun _ none => nomatch none

theorem intercalate_insert_ne (first : String) {text : String} (later : List String) :
    " ".intercalate (first :: text :: later) ≠ " ".intercalate (first :: later) := by
  intro same
  rw [intercalate_cons, intercalate_cons, List.map_cons, String.join_cons] at same
  have lengths := congrArg (fun text : String => text.toList.length) same
  have space : " ".toList.length = 1 := rfl
  simp only [String.toList_append, List.length_append] at lengths
  omega

/-- The keyword of the tables is written even if there are none. -/
theorem partText?_source (quotes : config.quoting ≠ .never) (select : Select) :
    partText? (select.sourceTokens config) =
      if select.source.all (!·.toList.isEmpty) = true then (select.sourceClause config).text?
      else some "FROM" := by
  rw [sourceTokens, sourceClause]
  cases select.source with
  | none => rfl
  | some tables =>
    by_cases present : tables.toList = []
    · have nothing : tables.render config = "" := by rw [Tables.render, present]
      simp only [Option.all_some, present, Tokens.part, nothing]
      rfl
    · have filled : (!tables.toList.isEmpty) = true := by simp [present]
      have kept : (some tables).filter (fun tables => !tables.toList.isEmpty) = some tables :=
        Option.filter_some_pos filled
      rw [Option.all_some, if_pos filled, kept]
      refine partText?_part ⟨by decide, by decide⟩ fun found same => ?_
      cases same
      exact Tables.hasText_render quotes present

theorem text?_sourceClause {select : Select} (listed : ¬select.source.all (!·.toList.isEmpty) = true) :
    (select.sourceClause config).text? = none := by
  have dropped : select.source.filter (!·.toList.isEmpty) = none := by
    cases source : select.source with
    | none => rfl
    | some tables =>
      rw [source, Option.all_some] at listed
      exact if_neg listed
  rw [sourceClause, dropped]
  rfl

theorem filterMap_clauses (config : Config) (select : Select) :
    (select.clauses config).filterMap Clause.text? =
      (select.keyword ++ " " ++ trim (select.columns.render config)) ::
        ((select.sourceClause config).text?.toList ++
          (select.laterClauses config).filterMap Clause.text?) := by
  have first : Clause.text? ⟨select.keyword, some (trim (select.columns.render config))⟩ =
      some (select.keyword ++ " " ++ trim (select.columns.render config)) := rfl
  rw [clauses, List.filterMap_cons_some first]
  cases shape : (select.sourceClause config).text? with
  | none => rw [List.filterMap_cons_none shape, Option.toList_none, List.nil_append]
  | some text => rw [List.filterMap_cons_some shape, Option.toList_some, List.singleton_append]

/-- The SQL of a select is its clauses with one space between them, each with its keyword and an operand that is not
blank, if and only if the select does not take its rows from an empty list of tables. Absent clauses, and those with an
empty list, leave nothing behind. From an empty list of tables the keyword is left alone among the other clauses. -/
theorem render_clauses (quotes : config.quoting ≠ .never) (select : Select)
    (filled : select.columns.isFilled = true) :
    (∀ clause ∈ select.clauses config, clause.operand.all hasText = true) ∧
    (select.render config = " ".intercalate ((select.clauses config).filterMap Clause.text?) ↔
      select.source.all (!·.toList.isEmpty) = true) ∧
    (¬select.source.all (!·.toList.isEmpty) = true → select.render config = " ".intercalate
      ((select.keyword ++ " " ++ trim (select.columns.render config)) :: "FROM" ::
        (select.laterClauses config).filterMap Clause.text?)) := by
  have written := render_eq_clauses quotes filled
  rw [partText?_source quotes] at written
  refine ⟨all_hasText_clauses quotes filled, ?_, fun listed => ?_⟩
  · rw [written, filterMap_clauses]
    split
    · rename_i present
      exact iff_of_true rfl present
    · rename_i listed
      -- The keyword without an operand is one text too many.
      rw [text?_sourceClause listed, Option.toList_some, Option.toList_none, List.singleton_append,
        List.nil_append]
      exact iff_of_false (intercalate_insert_ne _ _) listed
  · rw [written, if_neg listed, Option.toList_some, List.singleton_append]

/-- A select with a padded marker, a condition with a blank operator, and lists some of which are empty. -/
def mixedClauses : Select where
  distinct := some (.text " distinct ")
  columns := .list [⟨.column (.named "a"), some "b"⟩, ⟨.star, none⟩]
  source := some (.many [.named "t", .named "select"])
  condition := some (.unary " " (.call "f" none) false)
  groupBy := some []
  having := none
  orderBy := some [⟨.column (.named "a"), some " "⟩, ⟨.null, some "desc"⟩]
  limit := some ⟨some "Offset", [.param "m", .param "n "]⟩
  setOperation := none

theorem mixedClauses_render :
    Config.quoting {} ≠ .never ∧ mixedClauses.columns.isFilled = true ∧
      mixedClauses.render {} =
        "SELECT DISTINCT a AS b, * FROM t, \"select\" WHERE f() ORDER BY a, NULL DESC LIMIT :m OFFSET :n" ∧
      (∀ clause ∈ mixedClauses.clauses {}, clause.operand.all hasText = true) ∧
      mixedClauses.render {} = " ".intercalate ((mixedClauses.clauses {}).filterMap Clause.text?) := by
  have quotes : Config.quoting {} ≠ .never := by decide
  have filled : mixedClauses.columns.isFilled = true := rfl
  obtain ⟨operands, written, _⟩ := render_clauses quotes mixedClauses filled
  exact ⟨quotes, filled, by decide +kernel, operands, written.mpr rfl⟩

/-- A select from an empty list of tables. -/
def fromNothing : Select :=
  ⟨none, .star "*", some (.many []), none, none, none, none, none, none⟩

/-- The keyword of the tables is written and nothing after it. -/
theorem fromNothing_operandless :
    fromNothing.columns.isFilled = true ∧ fromNothing.render {} = "SELECT * FROM" ∧
      fromNothing.render {} ≠ " ".intercalate ((fromNothing.clauses {}).filterMap Clause.text?) ∧
      ¬∃ operand, fromNothing.render {} = "SELECT * FROM " ++ operand := by
  have written : fromNothing.render {} = "SELECT * FROM" := by decide +kernel
  refine ⟨rfl, written, by decide +kernel, fun ⟨operand, same⟩ => ?_⟩
  have lengths := congrArg (fun text : String => text.toList.length) (written.symm.trans same)
  have short : "SELECT * FROM".toList.length = 13 := rfl
  have long : "SELECT * FROM ".toList.length = 14 := rfl
  simp only [String.toList_append, List.length_append] at lengths
  omega

end Select

end SqlDdl
