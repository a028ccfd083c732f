import SqlDdl.Proofs.Layout
import SqlDdl.Proofs.Rewriting

/-! The literals that a scanner finds in the SQL of an expression are the strings of the expression, and
the text around them does not depend on what the strings are. -/

namespace SqlDdl

/-- Whether a piece is a string literal. -/
def Piece.isLiteral : Piece → Bool
  | quoted .single _ => true
  | _ => false

/-- The contents of the literals among some pieces. -/
def literals (pieces : List Piece) : List String :=
  pieces.filterMap fun
    | .quoted .single content => some (String.ofList content)
    | _ => none

/-- The texts before, between and after the literals among some pieces. -/
def segments (pieces : List Piece) : List (List Char) :=
  (pieces.splitOnP Piece.isLiteral).map (·.flatMap Piece.chars)

/-- The piece without its content if it is a literal. -/
def Piece.outline : Piece → Piece
  | quoted .single _ => quoted .single []
  | piece => piece

mutual

/-- The values of the strings in an expression, from left to right. -/
def Expr.strings : Expr → List String
  | .string value => [value]
  | .binary _ left right _ => left.strings ++ right.strings
  | .unary _ operand _ => operand.strings
  | .call _ (some args) => Expr.itemStrings args
  | .aggregate _ argument _ => argument.strings
  | .list items => Expr.itemStrings items
  | .column _ | .number _ | .quotedString _ | .bool _ | .null | .star | .param _
  | .call _ none => []

/-- The values of the strings in a list of expressions. -/
def Expr.itemStrings : List Expr → List String
  | [] => []
  | item :: items => item.strings ++ Expr.itemStrings items

end

theorem Expr.itemStrings_eq (items : List Expr) : itemStrings items = items.flatMap strings := by
  induction items with
  | nil => simp only [itemStrings, List.flatMap_nil]
  | cons item items ih => simp only [itemStrings, List.flatMap_cons, ih]

/-- Makes every string empty. -/
def Rewriting.emptyStrings : Rewriting := { string := fun _ => "" }

theorem Piece.isLiteral_outline (piece : Piece) : piece.outline.isLiteral = piece.isLiteral := by
  cases piece with
  | bare => rfl
  | quoted quote => cases quote <;> rfl

theorem Piece.outline_of_isLiteral {piece : Piece} (other : piece.isLiteral = false) :
    piece.outline = piece := by
  cases piece with
  | bare => rfl
  | quoted quote =>
    cases quote with
    | single => cases other
    | double | back | bracket => rfl

/-- The contents of the literals are not in the segments. -/
theorem segments_outline (pieces : List Piece) :
    segments (pieces.map Piece.outline) = segments pieces := by
  suffices split : (pieces.map Piece.outline).splitOnP Piece.isLiteral =
      pieces.splitOnP Piece.isLiteral by rw [segments, segments, split]
  induction pieces with
  | nil => rfl
  | cons piece pieces ih =>
    rw [List.map_cons, List.splitOnP_cons_eq_if_modifyHead, List.splitOnP_cons_eq_if_modifyHead,
      Piece.isLiteral_outline, ih]
    split
    · rfl
    · rename_i other
      rw [Piece.outline_of_isLiteral (Bool.eq_false_iff.mpr other)]

/-- Whether the literals of a text have given values, and another text has the same pieces except that
its literals are empty. -/
def Outlined (dialect : Dialect) (text blank : String) (values : List String) : Prop :=
  ∃ pieces, dialect.pieces? text.toList = some pieces ∧ literals pieces = values ∧
    dialect.pieces? blank.toList = some (pieces.map Piece.outline)

namespace Outlined

variable {dialect : Dialect}

theorem empty : Outlined dialect "" "" [] :=
  ⟨[], Dialect.pieces?_nil, rfl, Dialect.pieces?_nil⟩

/-- A text without quotes before another one. -/
theorem plainAppend {first text blank : String} {values : List String}
    (clean : Without quoteMarks first) (rest : Outlined dialect text blank values) :
    Outlined dialect (first ++ text) (first ++ blank) values := by
  obtain ⟨pieces, read, found, readBlank⟩ := rest
  have none : literals (first.toList.map .bare) = [] := by simp [literals, List.filterMap_map]
  have same : (first.toList.map .bare).map Piece.outline = first.toList.map .bare := by
    rw [List.map_map]
    rfl
  refine ⟨first.toList.map .bare ++ pieces, ?text, ?values, ?blank⟩
  case text =>
    rw [Dialect.pieces?_plainAppend clean, read]
    rfl
  case values => rw [literals, List.filterMap_append, ← literals, ← literals, none, found, List.nil_append]
  case blank =>
    rw [Dialect.pieces?_plainAppend clean, readBlank, List.map_append, same]
    rfl

/-- A text without quotes. -/
theorem plain {text : String} (clean : Without quoteMarks text) : Outlined dialect text text [] := by
  rw [← String.append_empty (s := text)]
  exact plainAppend clean empty

/-- A quoted token that is no literal. -/
theorem enclose (quote : Quote) (opens : dialect.quoteAt? quote.opening = some quote)
    (other : quote ≠ .single) (value : String) :
    Outlined dialect (SqlDdl.enclose quote.opening quote.closing value)
      (SqlDdl.enclose quote.opening quote.closing value) [] := by
  have read := Dialect.pieces?_enclose opens value
  refine ⟨[.quoted quote value.toList], read, ?_, ?_⟩
  · cases quote with
    | single => exact absurd rfl other
    | double | back | bracket => rfl
  · cases quote with
    | single => exact absurd rfl other
    | double | back | bracket => exact read

/-- A string literal. -/
theorem literal (value : String) :
    Outlined dialect (stringLiteral value) (stringLiteral "") [value] := by
  have opens : dialect.quoteAt? Quote.single.opening = some .single := Dialect.quoteAt?_single
  exact ⟨[.quoted .single value.toList], Dialect.pieces?_enclose opens value,
    by simp [literals, String.ofList_toList], Dialect.pieces?_enclose opens ""⟩

theorem append {first firstBlank second secondBlank : String} {before after : List String}
    (front : Outlined dialect first firstBlank before)
    (back : Outlined dialect second secondBlank after) (clear : isClear second.toList = true)
    (clearBlank : isClear secondBlank.toList = true) :
    Outlined dialect (first ++ second) (firstBlank ++ secondBlank) (before ++ after) := by
  obtain ⟨pieces, read, rfl, readBlank⟩ := front
  obtain ⟨later, readLater, rfl, readLaterBlank⟩ := back
  refine ⟨pieces ++ later, ?text, List.filterMap_append, ?blank⟩
  case text =>
    rw [String.toList_append, Dialect.pieces?_append read clear, readLater]
    rfl
  case blank =>
    rw [String.toList_append, Dialect.pieces?_append readBlank clearBlank, readLaterBlank,
      List.map_append]
    rfl

/-- Two texts with a text without quotes between them. -/
theorem between {first firstBlank middle second secondBlank : String} {before after : List String}
    (front : Outlined dialect first firstBlank before) (clean : Without quoteMarks middle)
    (filled : middle ≠ "") (back : Outlined dialect second secondBlank after) :
    Outlined dialect (first ++ middle ++ second) (firstBlank ++ middle ++ secondBlank)
      (before ++ after) := by
  rw [String.append_assoc, String.append_assoc]
  exact front.append (plainAppend clean back) (isClear_of_without clean filled second)
    (isClear_of_without clean filled secondBlank)

theorem parenthesized {text blank : String} {values : List String}
    (inside : Outlined dialect text blank values) :
    Outlined dialect (SqlDdl.parenthesized text) (SqlDdl.parenthesized blank) values := by
  have opened := plainAppend (by decide : Without quoteMarks "(") inside
  have closing : isClear ")".toList = true := by decide
  have closed := opened.append (plain (by decide : Without quoteMarks ")")) closing closing
  rwa [List.append_nil] at closed

theorem parenthesizedIf {text blank : String} {values : List String} (wanted : Bool)
    (inside : Outlined dialect text blank values) :
    Outlined dialect (SqlDdl.parenthesizedIf wanted text) (SqlDdl.parenthesizedIf wanted blank)
      values := by
  cases wanted with
  | true => exact inside.parenthesized
  | false => exact inside

/-- A list of texts, each with its values. -/
theorem commaList {α : Type} {text blank : α → String} {values : α → List String} {items : List α}
    (each : ∀ item ∈ items, Outlined dialect (text item) (blank item) (values item)) :
    Outlined dialect (SqlDdl.commaList (items.map text)) (SqlDdl.commaList (items.map blank))
      (items.flatMap values) :=
  @holds_commaList _ _ (Outlined dialect) (· ++ ·) text blank values (List.flatMap values ·) empty
    (fun front back => front.between (by decide) (by decide) back) (fun _ => List.append_nil _)
    (fun _ _ => List.flatMap_cons) items each

end Outlined

variable {config : Config}

theorem outlined_quote (quotes : config.quoting ≠ .never) (name : String) :
    Outlined config.dialect (config.quote name) (config.quote name) [] := by
  rcases quote_cases quotes name with wrapped | ⟨bare, plain, _⟩
  · have other : config.dialect.quote ≠ .single := by cases config.dialect <;> decide
    rw [wrapped, wrapIdentifier_eq]
    exact .enclose config.dialect.quote Dialect.quoteAt?_quote other name
  · rw [bare]
    exact .plain (foreign_quoteMarks.plain plain)

theorem ColumnRef.outlined (quotes : config.quoting ≠ .never) (ref : ColumnRef) :
    Outlined config.dialect (ref.render config) (ref.render config) [] := by
  have column : Outlined config.dialect
      (if ref.column = "*" then "*" else Config.quote config ref.column)
      (if ref.column = "*" then "*" else Config.quote config ref.column) [] := by
    split
    · exact .plain (by decide)
    · exact outlined_quote quotes ref.column
  simp only [ColumnRef.render]
  cases nonempty? ref.table with
  | none => exact column
  | some table => exact (outlined_quote quotes table).between (by decide) (by decide) column

/-- The literals in the SQL of an expression are its strings, and with empty strings it has the same SQL
except for them. -/
theorem Expr.outlined (quotes : config.quoting ≠ .never) (expr : Expr)
    (clean : Avoids quoteMarks expr.texts) :
    Outlined config.dialect (expr.render config) ((expr.map .emptyStrings).render config)
      expr.strings := by
  induction expr using Expr.induct with
  | column ref =>
    rw [map, render, render, strings]
    exact ref.outlined quotes
  | number value =>
    rw [map, render, strings]
    exact .plain (foreign_quoteMarks.number value)
  | string value =>
    rw [map, render, render, strings]
    exact .literal value
  | quotedString value =>
    rw [map, render, strings]
    exact .enclose .double Dialect.quoteAt?_double (by decide) value
  | bool value =>
    rw [map, render, strings]
    split <;> exact .plain (by decide)
  | null =>
    rw [map, render, strings]
    exact .plain (by decide)
  | star =>
    rw [map, render, strings]
    exact .plain (by decide)
  | param name =>
    rw [texts, avoids_singleton rfl] at clean
    rw [map, render, strings]
    exact .plainAppend (by decide) (.plain clean)
  | binary operator left right parens ihLeft ihRight ihItems =>
    rw [texts, avoids_append, avoids_cons, avoids_singleton rfl] at clean
    obtain ⟨⟨word, inLeft⟩, inRight⟩ := clean
    have operand : Outlined config.dialect (right.renderOperand config operator)
        ((right.map .emptyStrings).renderOperand config operator) right.strings := by
      -- A pair of bounds stays one when its strings are emptied, so both sides are written alike.
      rw [renderOperand, renderOperand, bounds?_map]
      cases pair : right.bounds? with
      | none => cases isBetween (upper operator) <;> exact ihRight inRight
      | some bounds =>
        obtain ⟨low, high⟩ := bounds
        cases isBetween (upper operator) with
        | false => exact ihRight inRight
        | true =>
          cases eq_of_bounds? pair
          rw [texts, itemTexts_eq, avoids_flatMap] at inRight
          have lower := ihItems _ rfl low (by simp) (inRight low (by simp))
          have upper := ihItems _ rfl high (by simp) (inRight high (by simp))
          simpa only [strings, itemStrings, List.append_nil, Option.map_some] using
            lower.between (by decide) (by decide) upper
    have joined := (ihLeft inLeft).between (foreign_quoteMarks.operator word) (by simp) operand
    rw [map, render_binary, render_binary, strings]
    apply Outlined.parenthesizedIf
    simpa only [Rewriting.emptyStrings, id, String.append_assoc] using joined
  | unary operator operand parens ih =>
    rw [texts, avoids_cons, avoids_singleton rfl] at clean
    rw [map, render, render, applyUnary_eq, applyUnary_eq, strings]
    exact ((ih clean.2).plainAppend (foreign_quoteMarks.unarySign clean.1)).parenthesizedIf parens
  | callBare name =>
    rw [texts, avoids_singleton rfl] at clean
    rw [map, render, strings]
    exact (Outlined.parenthesized .empty).plainAppend clean
  | call name args ih =>
    rw [texts, avoids_cons, avoids_singleton rfl, itemTexts_eq, avoids_flatMap] at clean
    rw [map, mapItems_eq, render, render, renderItems_eq_map, renderItems_eq_map, List.map_map,
      strings, itemStrings_eq]
    refine (Outlined.parenthesized (.commaList ?_)).plainAppend clean.1
    exact fun arg inside => ih arg inside (clean.2 arg inside)
  | aggregate name argument distinct ih =>
    rw [texts, avoids_append, avoids_cons, avoids_singleton rfl, avoids_partTexts] at clean
    obtain ⟨⟨word, marker⟩, inArgument⟩ := clean
    have balanced := ih inArgument
    have same : distinct.map (Rewriting.emptyStrings.marker "DISTINCT") = distinct :=
      Option.map_id'
    rw [map, same, render, render, strings]
    refine (Outlined.parenthesized ?_).plainAppend (word.upper foreign_quoteMarks.signs)
    split
    · rename_i keyword found
      obtain ⟨value, same, normal⟩ := Option.bind_eq_some_iff.mp found
      have clean := foreign_quoteMarks.marker (marker value same) (by decide) normal
      exact balanced.plainAppend (clean.append foreign_quoteMarks.blank)
    · exact balanced
  | list items ih =>
    rw [texts, itemTexts_eq, avoids_flatMap] at clean
    rw [map, mapItems_eq, render, render, renderItems_eq_map, renderItems_eq_map, List.map_map,
      strings, itemStrings_eq]
    exact .parenthesized (.commaList fun item inside => ih item inside (clean item inside))

/-- A scanner reads the SQL of an expression without loss, and the literals that it finds are the strings
of the expression. The text between them is the same for every expression that has other strings at the
same places. The texts that are never quoted must have no quote characters in them. -/
theorem Expr.render_literals (expr : Expr) (config : Config) (quotes : config.quoting ≠ .never)
    (clean : Avoids quoteMarks expr.texts) :
    ∃ pieces, config.dialect.pieces? (expr.render config).toList = some pieces ∧
      pieces.flatMap Piece.chars = (expr.render config).toList ∧
      literals pieces = expr.strings ∧
      ∀ other : Expr, Avoids quoteMarks other.texts →
        other.map .emptyStrings = expr.map .emptyStrings →
        ∃ found, config.dialect.pieces? (other.render config).toList = some found ∧
          literals found = other.strings ∧ segments found = segments pieces := by
  obtain ⟨pieces, read, values, blank⟩ := expr.outlined quotes clean
  refine ⟨pieces, read, Dialect.pieces?_chars read, values, ?_⟩
  intro other otherClean same
  obtain ⟨found, otherRead, otherValues, otherBlank⟩ := other.outlined quotes otherClean
  rw [same, blank] at otherBlank
  have outlines := Option.some.inj otherBlank
  exact ⟨found, otherRead, otherValues, by rw [← segments_outline, ← outlines, segments_outline]⟩

/-- A comparison of a column, whose name has an apostrophe, and a call with a given string. -/
def comparisonWith (value : String) : Expr :=
  .binary "=" (.column ⟨some "a\"b", "it's"⟩)
    (.call "f" (some [.string value, .quotedString "'", .string "]"])) true

theorem comparisonWith_literals :
    Avoids quoteMarks (comparisonWith "'); --").texts ∧ Avoids quoteMarks (comparisonWith "x").texts ∧
      (comparisonWith "x").map .emptyStrings = (comparisonWith "'); --").map .emptyStrings ∧
      ∃ pieces found,
        Dialect.mySql.pieces? ((comparisonWith "'); --").render ⟨.mySql, .asNeeded⟩).toList =
          some pieces ∧ literals pieces = ["'); --", "]"] ∧
        Dialect.mySql.pieces? ((comparisonWith "x").render ⟨.mySql, .asNeeded⟩).toList =
          some found ∧ literals found = ["x", "]"] ∧ segments found = segments pieces := by
  have clean : Avoids quoteMarks (comparisonWith "'); --").texts := by decide
  have otherClean : Avoids quoteMarks (comparisonWith "x").texts := by decide
  have same : (comparisonWith "x").map .emptyStrings = (comparisonWith "'); --").map .emptyStrings := rfl
  obtain ⟨pieces, read, _, values, others⟩ :=
    (comparisonWith "'); --").render_literals ⟨.mySql, .asNeeded⟩ (by decide) clean
  obtain ⟨found, otherRead, otherValues, segments⟩ := others _ otherClean same
  exact ⟨clean, otherClean, same, pieces, found, read, values, otherRead, otherValues, segments⟩

end SqlDdl
