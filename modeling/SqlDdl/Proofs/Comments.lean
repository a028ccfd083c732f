import SqlDdl.Proofs.Induction
import SqlDdl.Proofs.PlainTexts
import SqlDdl.Proofs.Spacing

/-! Where a comment opens in the SQL of an expression, outside of its quoted tokens: exactly where a minus
is put before an operand that begins with another one. -/

namespace SqlDdl

/-- The pairs of characters at which a comment opens. -/
def commentOpeners : List (Char × Char) := [('-', '-'), ('/', '*')]

/-- The characters of these pairs. -/
def commentSigns : List Char := ['-', '/', '*']

/-- Whether a comment opens at two pieces that are next to each other. -/
def opensComment : Piece → Piece → Bool
  | .bare c, .bare d => commentOpeners.contains (c, d)
  | _, _ => false

/-- Whether no comment opens among some pieces. -/
def CommentFree (pieces : List Piece) : Prop :=
  pieces.IsChain fun first second => opensComment first second = false

instance (pieces : List Piece) : Decidable (CommentFree pieces) :=
  inferInstanceAs (Decidable (pieces.IsChain fun first second => opensComment first second = false))

/-- Whether no comment opens among some characters outside of quotes. -/
def IsUncommented (cs : List Char) : Prop :=
  CommentFree (cs.map .bare)

instance (cs : List Char) : Decidable (IsUncommented cs) :=
  inferInstanceAs (Decidable (CommentFree (cs.map .bare)))

theorem opensComment_eq_false {c d : Char} (other : c ∉ commentSigns ∨ d ∉ commentSigns) :
    opensComment (.bare c) (.bare d) = false := by
  refine Bool.eq_false_iff.mpr fun opens => ?_
  simp only [opensComment, commentOpeners, List.contains_cons, List.contains_nil, Bool.or_false,
    Bool.or_eq_true, beq_iff_eq, Prod.mk.injEq] at opens
  rcases opens with ⟨rfl, rfl⟩ | ⟨rfl, rfl⟩
  · exact other.elim (absurd (by decide)) (absurd (by decide))
  · exact other.elim (absurd (by decide)) (absurd (by decide))

theorem isUncommented_iff {cs : List Char} :
    IsUncommented cs ↔ cs.IsChain fun c d => opensComment (.bare c) (.bare d) = false :=
  List.isChain_map _

namespace IsUncommented

variable {cs : List Char}

theorem ofClean (clean : ∀ c ∈ cs, c ∉ commentSigns) : IsUncommented cs :=
  isUncommented_iff.mpr (isChain_of_forall_mem clean fun _ _ other => opensComment_eq_false (Or.inl other))

/-- A single sign opens no comment before characters that are no signs. -/
theorem consClean (c : Char) (clean : ∀ d ∈ cs, d ∉ commentSigns) : IsUncommented (c :: cs) := by
  refine isUncommented_iff.mpr (List.isChain_cons.mpr ⟨fun d first => ?_, ?_⟩)
  · exact opensComment_eq_false (Or.inr (clean d (List.mem_of_mem_head? first)))
  · exact isUncommented_iff.mp (.ofClean clean)

theorem append {first second : List Char} (before : IsUncommented first) (after : IsUncommented second)
    (seam : (∀ c ∈ first.getLast?, c ∉ commentSigns) ∨ ∀ d ∈ second.head?, d ∉ commentSigns) :
    IsUncommented (first ++ second) := by
  rw [isUncommented_iff] at before after ⊢
  refine before.append after fun c last d head => opensComment_eq_false ?_
  exact seam.imp (fun other => other c last) (fun other => other d head)

theorem upperChars (free : IsUncommented cs) : IsUncommented (upperChars cs) := by
  rw [isUncommented_iff] at free ⊢
  refine isChain_flatMap free (fun c d => opensComment_eq_false) fun c => ?_
  by_cases sign : c ∈ commentSigns
  · have kept : ∀ c ∈ commentSigns, upperChar c = [c] := by decide
    exact Or.inl (kept c sign)
  · refine Or.inr ⟨upperChar_ne_nil c, fun d image marked => ?_⟩
    rcases mem_upperChar image with rfl | capital
    · exact sign marked
    · have signs : ∀ d ∈ commentSigns, isSign d = true := by decide
      rw [signs d marked] at capital
      cases capital

end IsUncommented

theorem not_mem_commentSigns_of_digit {n : Nat} : ∀ c ∈ Nat.toDigits 10 n, c ∉ commentSigns := by
  intro c member sign
  have digit := Nat.isDigit_of_mem_toDigits (by decide) (by decide) member
  have others : ∀ c ∈ commentSigns, c.isDigit = false := by decide
  rw [others c sign] at digit
  cases digit

/-- The text of a positive number opens no comment, not even after a minus: the only sign in it that could
is the one of the exponent. -/
theorem Decimal.isUncommented_text (d : Decimal) : IsUncommented ('-' :: d.text.toList) := by
  have digits : ∀ n, ∀ c ∈ Nat.toDigits 10 n, c ∉ commentSigns := fun _ =>
    not_mem_commentSigns_of_digit
  have zeros : ∀ count, ∀ c ∈ List.replicate count '0', c ∉ commentSigns := by
    intro count c member
    rw [List.eq_of_mem_replicate member]
    decide
  simp only [text, String.toList_ofList]
  split
  · apply IsUncommented.consClean
    split
    · simp only [List.forall_mem_append]
      exact ⟨⟨digits _, zeros _⟩, by decide⟩
    · split
      · simp only [List.forall_mem_append, List.forall_mem_cons]
        exact ⟨fun c member => digits _ c (List.mem_of_mem_take member), by decide,
          fun c member => digits _ c (List.mem_of_mem_drop member)⟩
      · simp only [List.cons_append, List.forall_mem_append, List.forall_mem_cons]
        exact ⟨by decide, by decide, zeros _, digits _⟩
  · -- Before the exponent there are only digits and a point.
    rw [← List.cons_append]
    refine .append (.consClean '-' ?mantissa) ?exponent (Or.inr ?seam)
    case mantissa =>
      rw [List.forall_mem_append]
      refine ⟨fun c member => digits _ c (List.mem_of_mem_take member), ?_⟩
      split
      · simp only [List.not_mem_nil, false_implies, implies_true]
      · rw [List.forall_mem_cons]
        exact ⟨by decide, fun c member => digits _ c (List.mem_of_mem_drop member)⟩
    case exponent =>
      have mark : IsUncommented ['e'] := .ofClean (by decide)
      exact mark.append (.consClean _ (digits _)) (Or.inl (by decide))
    case seam =>
      intro c first
      cases Option.mem_some.mp first
      decide

theorem isUncommented_signed {negative : Prop} [Decidable negative] {text : String}
    (free : IsUncommented ('-' :: text.toList)) :
    IsUncommented ((if negative then "-" else "") ++ text).toList := by
  rw [String.toList_append]
  split
  · exact free
  · exact isUncommented_iff.mpr (isUncommented_iff.mp free).tail

theorem Number.isUncommented_text (value : Number) : IsUncommented value.text.toList := by
  cases value with
  | integer value =>
    refine isUncommented_signed ?_
    rw [String.toList_ofList]
    exact .consClean '-' not_mem_commentSigns_of_digit
  | double value =>
    refine isUncommented_signed ?_
    split
    · decide
    · exact Decimal.isUncommented_text _

/-- Whether a scanner reads a text to its end, and a comment opens between its quoted tokens if and only if
a flag says so. -/
def Commented (dialect : Dialect) (text : String) (opens : Bool) : Prop :=
  ∃ pieces, dialect.pieces? text.toList = some pieces ∧ (CommentFree pieces ↔ opens = false)

/-- A text without quotes that opens no comment, neither by itself nor with what follows it. -/
structure IsLead (text : String) : Prop where
  clean : Without quoteMarks text
  free : IsUncommented text.toList
  ends : ∀ c ∈ text.toList.getLast?, c ∉ commentSigns

/-- A text that opens no comment, neither by itself nor with what is around it. -/
structure IsSeparator (text : String) : Prop extends IsLead text where
  present : text ≠ ""
  starts : ∀ c ∈ text.toList.head?, c ∉ commentSigns

instance (text : String) : Decidable (IsLead text) :=
  decidable_of_iff (Without quoteMarks text ∧ IsUncommented text.toList ∧
    ∀ c ∈ text.toList.getLast?, c ∉ commentSigns)
    ⟨fun ⟨clean, free, ends⟩ => ⟨clean, free, ends⟩, fun ⟨clean, free, ends⟩ => ⟨clean, free, ends⟩⟩

instance (text : String) : Decidable (IsSeparator text) :=
  decidable_of_iff (IsLead text ∧ text ≠ "" ∧ ∀ c ∈ text.toList.head?, c ∉ commentSigns)
    ⟨fun ⟨lead, present, starts⟩ => ⟨lead, present, starts⟩,
      fun ⟨lead, present, starts⟩ => ⟨lead, present, starts⟩⟩

theorem commentFree_append {first second : List Piece}
    (seam : ∀ x ∈ first.getLast?, ∀ y ∈ second.head?, opensComment x y = false) :
    CommentFree (first ++ second) ↔ CommentFree first ∧ CommentFree second := by
  refine List.isChain_append.trans ⟨fun ⟨before, after, _⟩ => ⟨before, after⟩, ?_⟩
  exact fun ⟨before, after⟩ => ⟨before, after, seam⟩

theorem opensComment_comm_false {c : Char} (other : c ∉ commentSigns) (piece : Piece) :
    opensComment (.bare c) piece = false ∧ opensComment piece (.bare c) = false := by
  cases piece with
  | quoted => exact ⟨rfl, rfl⟩
  | bare d => exact ⟨opensComment_eq_false (Or.inl other), opensComment_eq_false (Or.inr other)⟩

namespace Commented

variable {dialect : Dialect}

theorem plain {text : String} (clean : Without quoteMarks text) (free : IsUncommented text.toList) :
    Commented dialect text false :=
  ⟨text.toList.map .bare, Dialect.pieces?_map_bare fun c member => Dialect.quoteAt?_of_not_mem (clean c member),
    iff_of_true free rfl⟩

theorem empty : Commented dialect "" false :=
  .plain (by decide) (by decide)

theorem enclose (quote : Quote) (opens : dialect.quoteAt? quote.opening = some quote) (value : String) :
    Commented dialect (SqlDdl.enclose quote.opening quote.closing value) false :=
  ⟨[.quoted quote value.toList], Dialect.pieces?_enclose opens value,
    iff_of_true (List.isChain_singleton _) rfl⟩

theorem plainAppend {first second : String} {opens : Bool} (lead : IsLead first)
    (rest : Commented dialect second opens) : Commented dialect (first ++ second) opens := by
  obtain ⟨pieces, read, free⟩ := rest
  refine ⟨first.toList.map .bare ++ pieces, ?_, ?_⟩
  · rw [Dialect.pieces?_plainAppend lead.clean, read]
    rfl
  · rw [commentFree_append, ← free]
    · exact and_iff_right lead.free
    · intro x last y _
      rw [List.getLast?_map] at last
      obtain ⟨c, isLast, rfl⟩ := Option.map_eq_some_iff.mp last
      exact (opensComment_comm_false (lead.ends c isLast) y).1

/-- Two texts with a separator between them. -/
theorem between {first middle second : String} {before after : Bool} (front : Commented dialect first before)
    (separator : IsSeparator middle) (back : Commented dialect second after) :
    Commented dialect (first ++ middle ++ second) (before || after) := by
  obtain ⟨pieces, read, free⟩ := front
  obtain ⟨later, readLater, freeLater⟩ := back.plainAppend separator.toIsLead
  have clear := isClear_of_without separator.clean separator.present second
  rw [String.append_assoc]
  refine ⟨pieces ++ later, ?_, ?_⟩
  · rw [String.toList_append, Dialect.pieces?_append read clear, readLater]
    rfl
  · rw [commentFree_append, free, freeLater, Bool.or_eq_false_iff]
    -- The separator has a first character, and it is no sign.
    intro x _ y head
    obtain ⟨c, cs, shape⟩ := List.exists_cons_of_ne_nil (String.toList_eq_nil_iff.not.mpr separator.present)
    have starts := separator.starts c (by rw [shape]; rfl)
    have bare : c ∉ quoteMarks := separator.clean c (by rw [shape]; exact List.mem_cons_self)
    have first : later.head? = some (.bare c) := by
      rw [Dialect.head?_pieces? readLater bare, String.toList_append, shape]
      rfl
    rw [first] at head
    cases Option.mem_some.mp head
    exact (opensComment_comm_false starts x).2

theorem parenthesized {text : String} {opens : Bool} (inside : Commented dialect text opens) :
    Commented dialect (SqlDdl.parenthesized text) opens := by
  have opened := inside.plainAppend (by decide : IsLead "(")
  have joined := opened.between (by decide : IsSeparator ")") .empty
  rwa [String.append_empty, Bool.or_false] at joined

theorem parenthesizedIf {text : String} {opens : Bool} (wanted : Bool)
    (inside : Commented dialect text opens) : Commented dialect (SqlDdl.parenthesizedIf wanted text) opens := by
  cases wanted with
  | true => exact inside.parenthesized
  | false => exact inside

theorem commaList {α : Type} {text : α → String} {opens : α → Bool} {items : List α}
    (each : ∀ item ∈ items, Commented dialect (text item) (opens item)) :
    Commented dialect (SqlDdl.commaList (items.map text)) (items.any opens) :=
  @holds_commaList _ _ (fun text _ => Commented dialect text) (· || ·) text text opens (List.any · opens) empty
    (fun front back => front.between (by decide) back) (fun _ => Bool.or_false _) (fun _ _ => List.any_cons) items
    each

/-- A minus opens a comment with an operand that begins with a minus. -/
theorem minus {operand : String} {opens : Bool} (inner : Commented dialect operand opens) :
    Commented dialect ("-" ++ operand) (operand.toList.head? == some '-' || opens) := by
  obtain ⟨pieces, read, free⟩ := inner
  have bare : dialect.quoteAt? '-' = none := Dialect.quoteAt?_of_not_mem (by decide)
  refine ⟨.bare '-' :: pieces, ?_, ?_⟩
  · rw [String.toList_append]
    show dialect.pieces? ('-' :: operand.toList) = _
    rw [Dialect.pieces?_bare bare, read]
    rfl
  · have next : (∀ y ∈ pieces.head?, opensComment (.bare '-') y = false) ↔
        (operand.toList.head? == some '-') = false := by
      rw [beq_eq_false_iff_ne, ne_eq, ← Dialect.head?_pieces? read (by decide)]
      cases pieces.head? with
      | none => simp
      | some piece =>
        cases piece with
        | quoted => simp [opensComment]
        | bare d => simp [opensComment, commentOpeners]
    rw [Bool.or_eq_false_iff, ← free, ← next]
    exact List.isChain_cons

end Commented

mutual

/-- Whether a minus somewhere in an expression is put before an operand that begins with a minus. -/
def Expr.doublesMinus (config : Config) : Expr → Bool
  | .binary _ left right _ => left.doublesMinus config || right.doublesMinus config
  | .unary operator operand _ =>
    operator == "-" && (operand.render config).toList.head? == some '-' || operand.doublesMinus config
  | .call _ (some args) => Expr.anyDoublesMinus config args
  | .aggregate _ argument _ => argument.doublesMinus config
  | .list items => Expr.anyDoublesMinus config items
  | .column _ | .number _ | .string _ | .quotedString _ | .bool _ | .null | .star | .param _
  | .call _ none => false

/-- Whether one of some expressions has a minus before an operand that begins with a minus. -/
def Expr.anyDoublesMinus (config : Config) : List Expr → Bool
  | [] => false
  | item :: items => item.doublesMinus config || Expr.anyDoublesMinus config items

end

theorem Expr.anyDoublesMinus_eq (config : Config) (items : List Expr) :
    anyDoublesMinus config items = items.any (doublesMinus config) := by
  induction items with
  | nil => simp only [anyDoublesMinus, List.any_nil]
  | cons item items ih => simp only [anyDoublesMinus, List.any_cons, ih]

/-- Whether a text brings no comment into an expression. One that is quoted cannot, an operator has no quotes
and opens no comment by itself, and any other text has no signs of comments at all. -/
def IsHarmless : RoleText → Prop
  | (.identifier, _) | (.literal, _) => True
  | (.operator, operator) => Without quoteMarks operator ∧ IsUncommented operator.toList
  | (_, text) => Without (quoteMarks ++ commentSigns) text

instance (entry : RoleText) : Decidable (IsHarmless entry) := by
  unfold IsHarmless
  split <;> infer_instance

section Expr

variable {config : Config}

theorem isLead_of_without {text : String} (clean : Without (quoteMarks ++ commentSigns) text) :
    IsLead text := by
  have apart : ∀ c ∈ text.toList, c ∉ quoteMarks ∧ c ∉ commentSigns := fun c member =>
    not_or.mp (fun either => clean c member (List.mem_append.mpr either))
  exact ⟨fun c member => (apart c member).1, .ofClean fun c member => (apart c member).2,
    fun c last => (apart c (List.mem_of_mem_getLast? last)).2⟩

theorem getLast?_append_space (text : String) : (text ++ " ").toList.getLast? = some ' ' := by
  rw [String.toList_append, List.getLast?_append]
  rfl

/-- An operator in upper case and a space after it. -/
theorem isLead_operator {operator : String} (clean : Without quoteMarks operator)
    (free : IsUncommented operator.toList) : IsLead (upper operator ++ " ") := by
  have chars : (upper operator).toList = upperChars operator.toList := String.toList_ofList
  refine ⟨(clean.upper foreign_quoteMarks.signs).append foreign_quoteMarks.blank, ?_, fun c last => ?_⟩
  · rw [String.toList_append, chars]
    exact free.upperChars.append (by decide) (Or.inr (by decide))
  · rw [getLast?_append_space] at last
    cases Option.mem_some.mp last
    decide

theorem isSeparator_operator {operator : String} (clean : Without quoteMarks operator)
    (free : IsUncommented operator.toList) : IsSeparator (" " ++ upper operator ++ " ") := by
  have lead := isLead_operator clean free
  refine ⟨⟨foreign_quoteMarks.operator clean, ?_, fun c last => ?_⟩, by simp, fun c first => ?_⟩
  · rw [String.append_assoc, String.toList_append]
    exact .append (by decide) lead.free (Or.inl (by decide))
  · rw [getLast?_append_space] at last
    cases Option.mem_some.mp last
    decide
  · rw [String.append_assoc, String.toList_append] at first
    cases Option.mem_some.mp first
    decide

theorem commented_quote (quotes : config.quoting ≠ .never) (name : String) :
    Commented config.dialect (config.quote name) false := by
  rcases quote_cases quotes name with wrapped | ⟨bare, plain, _⟩
  · rw [wrapped, wrapIdentifier_eq]
    exact .enclose config.dialect.quote Dialect.quoteAt?_quote name
  · have lead := isLead_of_without (without_of_isPlain (by decide) plain)
    rw [bare]
    exact .plain lead.clean lead.free

theorem ColumnRef.commented (quotes : config.quoting ≠ .never) (ref : ColumnRef) :
    Commented config.dialect (ref.render config) false := by
  have column : Commented config.dialect (if ref.column = "*" then "*" else config.quote ref.column) false := by
    split
    · exact .plain (by decide) (by decide)
    · exact commented_quote quotes ref.column
  simp only [ColumnRef.render]
  cases nonempty? ref.table with
  | none => exact column
  | some table => exact (commented_quote quotes table).between (by decide) column

/-- An operand after its unary operator. Only a minus is put before it without a space or a sign of its own
that opens no comment. -/
theorem Commented.unary {operator operand : String} {opens : Bool}
    (harmless : IsHarmless (.operator, operator)) (inner : Commented config.dialect operand opens) :
    Commented config.dialect (Expr.unarySign operator ++ operand)
      (operator == "-" && operand.toList.head? == some '-' || opens) := by
  by_cases minus : operator = "-"
  · subst minus
    exact inner.minus
  · have lead : IsLead (Expr.unarySign operator) := by
      rw [Expr.unarySign]
      split
      · rename_i sign
        rcases sign with rfl | rfl | rfl
        · exact absurd rfl minus
        · decide
        · decide
      · split
        · decide
        · exact isLead_operator harmless.1 harmless.2
    rw [beq_eq_false_iff_ne.mpr minus, Bool.false_and, Bool.false_or]
    exact inner.plainAppend lead

theorem Expr.commented (quotes : config.quoting ≠ .never) (expr : Expr)
    (harmless : ∀ entry ∈ expr.texts, IsHarmless entry) :
    Commented config.dialect (expr.render config) (expr.doublesMinus config) := by
  induction expr using Expr.induct with
  | column ref =>
    rw [render, doublesMinus]
    exact ref.commented quotes
  | number value =>
    rw [render, doublesMinus]
    exact .plain (foreign_quoteMarks.number value) value.isUncommented_text
  | string value =>
    rw [render, doublesMinus]
    exact .enclose .single Dialect.quoteAt?_single value
  | quotedString value =>
    rw [render, doublesMinus]
    exact .enclose .double Dialect.quoteAt?_double value
  | bool value =>
    rw [render, doublesMinus]
    split <;> exact .plain (by decide) (by decide)
  | null =>
    rw [render, doublesMinus]
    exact .plain (by decide) (by decide)
  | star =>
    rw [render, doublesMinus]
    exact .plain (by decide) (by decide)
  | param name =>
    rw [texts, List.forall_mem_singleton] at harmless
    have lead := isLead_of_without harmless
    rw [render, doublesMinus]
    exact (Commented.plain lead.clean lead.free).plainAppend (by decide)
  | binary operator left right parens ihLeft ihRight ihItems =>
    rw [texts, List.forall_mem_append, List.forall_mem_cons] at harmless
    obtain ⟨⟨word, inLeft⟩, inRight⟩ := harmless
    have operand : Commented config.dialect (right.renderOperand config operator)
        (right.doublesMinus config) := by
      rw [renderOperand]
      split
      · rename_i low high _ pair
        cases eq_of_bounds? pair
        rw [texts, itemTexts_eq, List.forall_mem_flatMap] at inRight
        have bound : ∀ item ∈ [low, high], Commented config.dialect (item.render config)
            (item.doublesMinus config) := fun item member =>
          ihItems _ rfl item member (inRight item member)
        simpa only [doublesMinus, anyDoublesMinus, Bool.or_false] using
          (bound low (by simp)).between (by decide : IsSeparator " AND ") (bound high (by simp))
      · exact ihRight inRight
    have joined := (ihLeft inLeft).between (isSeparator_operator word.1 word.2) operand
    rw [render_binary, doublesMinus]
    apply Commented.parenthesizedIf
    simpa only [String.append_assoc] using joined
  | unary operator operand parens ih =>
    rw [texts, List.forall_mem_cons] at harmless
    rw [render, applyUnary_eq, doublesMinus]
    exact ((ih harmless.2).unary harmless.1).parenthesizedIf parens
  | callBare name =>
    rw [texts, List.forall_mem_singleton] at harmless
    rw [render, doublesMinus]
    exact (Commented.parenthesized .empty).plainAppend (isLead_of_without harmless)
  | call name args ih =>
    rw [texts, List.forall_mem_cons, itemTexts_eq, List.forall_mem_flatMap] at harmless
    rw [render, renderItems_eq_map, doublesMinus, anyDoublesMinus_eq]
    refine (Commented.parenthesized (.commaList ?_)).plainAppend (isLead_of_without harmless.1)
    exact fun arg inside => ih arg inside (harmless.2 arg inside)
  | aggregate name argument distinct ih =>
    rw [texts, List.forall_mem_append, List.forall_mem_cons] at harmless
    obtain ⟨⟨word, marker⟩, inArgument⟩ := harmless
    have signs : ∀ c ∈ quoteMarks ++ commentSigns, isSign c = true := by decide
    rw [render, doublesMinus]
    refine (Commented.parenthesized ?_).plainAppend (isLead_of_without (word.upper signs))
    split
    · rename_i keyword found
      obtain ⟨value, same, normal⟩ := Option.bind_eq_some_iff.mp found
      have clean : Without (quoteMarks ++ commentSigns) keyword := by
        refine Without.marker ?_ (by decide) normal signs (by decide)
        rintro text rfl
        exact forall_mem_partTexts.mp marker _ same _ (List.mem_singleton_self _)
      exact (ih inArgument).plainAppend (isLead_of_without (clean.append (by decide)))
    · exact ih inArgument
  | list items ih =>
    rw [texts, itemTexts_eq, List.forall_mem_flatMap] at harmless
    rw [render, renderItems_eq_map, doublesMinus, anyDoublesMinus_eq]
    exact .parenthesized (.commaList fun item inside => ih item inside (harmless item inside))

/-- A scanner reads the SQL of an expression without loss. Between the quoted tokens a comment opens in it if
and only if a minus in the expression is put before an operand that begins with a minus. -/
theorem Expr.render_commentFree_iff (expr : Expr) (quotes : config.quoting ≠ .never)
    (harmless : ∀ entry ∈ expr.texts, IsHarmless entry) :
    ∃ pieces, config.dialect.pieces? (expr.render config).toList = some pieces ∧
      pieces.flatMap Piece.chars = (expr.render config).toList ∧
      (CommentFree pieces ↔ expr.doublesMinus config = false) := by
  obtain ⟨pieces, read, free⟩ := expr.commented quotes harmless
  exact ⟨pieces, read, Dialect.pieces?_chars read, free⟩

/-- A difference with signs that meet and with comments in quotes: `'--' - -~-1`, and a name. -/
def signedDifference : Expr :=
  .binary "-" (.string "--")
    (.binary "/" (.unary "-" (.unary "~" (.number (.integer (-1))) false) false)
      (.column ⟨some "/*", "*"⟩) false) false

theorem signedDifference_commentFree :
    (∀ entry ∈ signedDifference.texts, IsHarmless entry) ∧ ∃ pieces,
      Dialect.ansi.pieces? (signedDifference.render {}).toList = some pieces ∧ CommentFree pieces := by
  have harmless : ∀ entry ∈ signedDifference.texts, IsHarmless entry := by decide
  have quotes : Config.quoting {} ≠ .never := by decide
  obtain ⟨pieces, read, _, free⟩ := signedDifference.render_commentFree_iff quotes harmless
  exact ⟨harmless, pieces, read, free.mpr (by decide +kernel)⟩

/-- A minus before a negative number. -/
def negatedNegative : Expr := .unary "-" (.number (.integer (-1))) false

/-- What is left of a minus before a negative number is a comment. -/
theorem negatedNegative_comment :
    (∀ entry ∈ negatedNegative.texts, IsHarmless entry) ∧
      Dialect.ansi.pieces? (negatedNegative.render {}).toList = some [.bare '-', .bare '-', .bare '1'] ∧
      ¬ CommentFree [.bare '-', .bare '-', .bare '1'] := by
  refine ⟨by decide, ?_, by decide⟩
  have written : (negatedNegative.render {}).toList = ['-', '-', '1'] := by decide +kernel
  rw [written]
  exact Dialect.pieces?_map_bare (by decide)

end Expr

end SqlDdl
