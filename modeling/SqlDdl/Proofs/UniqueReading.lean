import SqlDdl.Proofs.Brackets
import SqlDdl.Proofs.ExprReader
import SqlDdl.Proofs.Induction
import SqlDdl.Proofs.PlainTexts
import SqlDdl.Proofs.Rewriting

/-! Expressions with explicit parentheses are read back from their SQL, and so two of them with the same
SQL are the same up to the spelling of operators. -/

namespace SqlDdl

/-- The characters of which an operator consists: no blanks, brackets and commas. -/
def isOperatorPart (c : Char) : Bool :=
  !isBlank c && !(marks false).contains c

mutual

/-- Whether an expression has explicit parentheses and no parts that could be taken for others. -/
def Expr.isExplicit : Expr → Bool
  | .column ref => ref.column != "*" && ref.table != some ""
  | .number (.integer value) => 0 ≤ value
  | .string _ | .bool _ | .null => true
  | .call name (some args) =>
    isPlain name.toList && !isReserved name && Expr.areExplicit args
  | .list items => Expr.areExplicit items
  | .binary operator left right parens =>
    parens && operator != "" && operator.toList.all isOperatorPart && left.isExplicit &&
      right.isExplicit
  | .unary operator operand parens =>
    parens && ["-", "+", "~", "not"].contains operator && operand.isExplicit
  | .number (.double _) | .quotedString _ | .star | .param _ | .call _ none | .aggregate _ _ _ => false

/-- Whether all items of a list are explicit. -/
def Expr.areExplicit : List Expr → Bool
  | [] => true
  | item :: items => item.isExplicit && Expr.areExplicit items

end

theorem Expr.areExplicit_iff (items : List Expr) :
    areExplicit items = true ↔ ∀ item ∈ items, item.isExplicit = true := by
  induction items with
  | nil => simp only [areExplicit, List.not_mem_nil, false_implies, implies_true]
  | cons item items ih => simp only [areExplicit, Bool.and_eq_true, ih, List.forall_mem_cons]

/-- Writes every operator in upper case. -/
def Rewriting.upperOperators : Rewriting := { operator := upper }

/-- Whether an expression ends where a text begins. -/
def endsExpr : List Char → Bool
  | [] => true
  | c :: _ => c == ')' || c == ',' || c == ' '

/-- Whether a reader takes a value off every text that begins with a given one and goes on where an
expression ends. -/
def Reads {α : Type} (read : Reader α) (text : String) (value : α) : Prop :=
  ∀ rest, endsExpr rest = true → read (text.toList ++ rest) = some (value, rest)

/-- Whether a reader takes items off every text that begins with them and a closing parenthesis. -/
def ReadsItems (items : Reader (List Expr)) (texts : List String) (values : List Expr) : Prop :=
  ∀ rest, items ((commaList texts).toList ++ ')' :: rest) = some (values, rest)

theorem endsName_of_endsExpr {cs : List Char} (ends : endsExpr cs = true) : endsName cs = true := by
  cases cs with
  | nil => rfl
  | cons c cs =>
    simp only [endsExpr, Bool.or_eq_true, beq_iff_eq] at ends
    rcases ends with (rfl | rfl) | rfl <;> rfl

/-- What a list continues with after one of its texts. -/
def listTail : List String → List Char → List Char
  | [], rest => ')' :: rest
  | text :: texts, rest => ',' :: ' ' :: ((commaList (text :: texts)).toList ++ ')' :: rest)

theorem commaList_cons_append (text : String) (texts : List String) (rest : List Char) :
    (commaList (text :: texts)).toList ++ ')' :: rest = text.toList ++ listTail texts rest := by
  cases texts with
  | nil => rw [commaList, String.intercalate_singleton, listTail]
  | cons next later =>
    rw [commaList, String.intercalate_cons_cons, String.toList_append, String.toList_append,
      List.append_assoc, List.append_assoc]
    rfl

theorem endsExpr_listTail (texts : List String) (rest : List Char) :
    endsExpr (listTail texts rest) = true := by
  cases texts <;> rfl

/-- Whether a reader takes nothing off a text that begins with a sign, a closing parenthesis or the word
`NOT`. -/
structure Rejects (read : Reader Expr) : Prop where
  sign : ∀ c ∈ [')', '-', '+', '~'], ∀ cs, read (c :: cs) = none
  not : ∀ cs, read ('N' :: 'O' :: 'T' :: ' ' :: cs) = none

section Layer

variable {dialect : Dialect} {config : Config} {read : Reader Expr} {items : Reader (List Expr)}

theorem rejects_readLayer : Rejects (dialect.readLayer read items) where
  sign c member cs := by
    simp only [List.mem_cons, List.not_mem_nil, or_false] at member
    rcases member with rfl | rfl | rfl | rfl <;> cases dialect <;> rfl
  not cs := by
    cases dialect <;> rfl

theorem readLayer_word {word : String} {rest : List Char} (plain : isPlain word.toList = true)
    (ends : endsName rest = true) :
    dialect.readLayer read items (word.toList ++ rest) = dialect.readWordExpr items word rest := by
  have named := dialect.readName_word plain ends
  cases shape : word.toList with
  | nil =>
    rw [shape] at plain
    cases plain
  | cons c cs =>
    rw [shape] at plain named
    have start : isPlainStart c = true := by
      simp only [isPlain, Bool.and_eq_true] at plain
      exact plain.1
    have apart : ∀ d, isPlainStart d = false → c ≠ d := by
      rintro d other rfl
      rw [start] at other
      cases other
    have noQuote : c ≠ dialect.openQuote := apart _ (by cases dialect <;> decide)
    rw [List.cons_append] at named ⊢
    rw [Dialect.readLayer, if_neg (apart _ (by decide)), if_neg (apart _ (by decide)),
      not_isDigit_of_isPlainStart start, named]
    simp only [Bool.false_eq_true, if_false, Option.bind_some, if_neg noQuote]

theorem readLayer_wrapped (name : String) {rest : List Char} (clear : isClear rest = true) :
    dialect.readLayer read items ((wrapIdentifier dialect name).toList ++ rest) =
      dialect.readColumn name rest := by
  have named := dialect.readName_wrapped name clear
  rw [wrapIdentifier, enclose, String.toList_ofList, List.cons_append, List.cons_append] at named ⊢
  have noGroup : dialect.openQuote ≠ '(' := by cases dialect <;> decide
  have noString : dialect.openQuote ≠ '\'' := by cases dialect <;> decide
  have noDigit : dialect.openQuote.isDigit = false := by cases dialect <;> decide
  rw [Dialect.readLayer, if_neg noGroup, if_neg noString, noDigit, named]
  simp only [Bool.false_eq_true, if_false, Option.bind_some, if_true]

/-- What a word begins that is neither reserved nor the name of a call. -/
theorem readWordExpr_free {word : String} {rest : List Char} (free : isReserved word = false) :
    dialect.readWordExpr items word rest = dialect.readCall items word rest := by
  have apart : ∀ reserved, isReserved reserved = true → word ≠ reserved := by
    rintro reserved isReserved rfl
    rw [free] at isReserved
    cases isReserved
  rw [Dialect.readWordExpr, if_neg (apart _ (by decide)), if_neg (apart _ (by decide)),
    if_neg (apart _ (by decide)), if_neg (apart _ (by decide))]

theorem readCall_column {word : String} {rest : List Char} (noCall : rest.head? ≠ some '(') :
    dialect.readCall items word rest = dialect.readColumn word rest := by
  rw [Dialect.readCall.eq_def]
  split
  · exact absurd rfl noCall
  · rfl

theorem readLayer_quote (quotes : config.quoting ≠ .never) (name : String) {rest : List Char}
    (ends : endsName rest = true) (noCall : rest.head? ≠ some '(') :
    config.dialect.readLayer read items ((config.quote name).toList ++ rest) =
      config.dialect.readColumn name rest := by
  rcases quote_cases quotes name with wrapped | ⟨bare, plain, free⟩
  · rw [wrapped, readLayer_wrapped name (isClear_of_endsName ends)]
  · rw [bare, readLayer_word plain ends, readWordExpr_free free, readCall_column noCall]

theorem head_of_endsExpr {cs : List Char} (ends : endsExpr cs = true) {c : Char}
    (first : cs.head? = some c) : c = ')' ∨ c = ',' ∨ c = ' ' := by
  cases cs with
  | nil => cases first
  | cons d cs =>
    cases first
    simpa only [endsExpr, Bool.or_eq_true, beq_iff_eq, or_assoc] using ends

theorem readColumn_alone {name : String} {rest : List Char} (ends : endsExpr rest = true) :
    dialect.readColumn name rest = some (.column ⟨none, name⟩, rest) := by
  rw [Dialect.readColumn.eq_def]
  split
  · have first := head_of_endsExpr ends rfl
    simp only [Char.reduceEq, or_self] at first
  · rfl

theorem reads_column (quotes : config.quoting ≠ .never) {ref : ColumnRef}
    (explicit : (Expr.column ref).isExplicit = true) :
    Reads (config.dialect.readLayer read items) (ref.render config) (.column ref) := by
  intro rest ends
  simp only [Expr.isExplicit, Bool.and_eq_true, bne_iff_ne, ne_eq] at explicit
  obtain ⟨noStar, filled⟩ := explicit
  have endsName := endsName_of_endsExpr ends
  rcases ref with ⟨_ | table, column⟩
  · have written : ColumnRef.render config ⟨none, column⟩ = config.quote column := by
      simp only [ColumnRef.render, nonempty?, Option.filter_none, if_neg noStar]
    have noCall : rest.head? ≠ some '(' := fun first => by
      simpa only [Char.reduceEq, or_self] using head_of_endsExpr ends first
    rw [written, readLayer_quote quotes column endsName noCall, readColumn_alone ends]
  · have present : nonempty? (some table) = some table :=
      Option.filter_eq_some_iff.mpr ⟨rfl, by simpa using filled⟩
    have written : ColumnRef.render config ⟨some table, column⟩ =
        config.quote table ++ "." ++ config.quote column := by
      simp only [ColumnRef.render, present, if_neg noStar]
    have chars : (config.quote table ++ "." ++ config.quote column).toList ++ rest =
        (config.quote table).toList ++ '.' :: ((config.quote column).toList ++ rest) := by
      simp only [String.toList_append, List.append_assoc]
      rfl
    rw [written, chars, readLayer_quote quotes table rfl (by simp), Dialect.readColumn,
      readName_quote quotes column endsName]
    rfl

theorem reads_number {value : Int} (positive : 0 ≤ value) :
    Reads (dialect.readLayer read items) (Number.integer value).text (.number (.integer value)) := by
  intro rest ends
  have written : (Number.integer value).text.toList = Nat.toDigits 10 value.natAbs := by
    simp only [Number.text, if_neg (Int.not_lt.mpr positive), String.empty_append, String.toList_ofList]
  have digits : ∀ c ∈ Nat.toDigits 10 value.natAbs, c.isDigit = true := fun c member =>
    Nat.isDigit_of_mem_toDigits (by decide) (by decide) member
  have stops : ∀ c, rest.head? = some c → c.isDigit = false := fun c first => by
    rcases head_of_endsExpr ends first with rfl | rfl | rfl <;> decide
  obtain ⟨taken, left⟩ := takeWhile_append_of_head digits stops
  have number : readNumber (Nat.toDigits 10 value.natAbs ++ rest) =
      some (.number (.integer value), rest) := by
    rw [readNumber, taken, left, Nat.ofDigitChars_ten_toDigits, Int.natAbs_of_nonneg positive]
  rw [written]
  cases shape : Nat.toDigits 10 value.natAbs with
  | nil => exact absurd shape Nat.toDigits_ne_nil
  | cons c cs =>
    have digit := digits c (shape ▸ List.mem_cons_self)
    have noGroup : c ≠ '(' := by
      rintro rfl
      cases digit
    have noString : c ≠ '\'' := by
      rintro rfl
      cases digit
    rw [shape] at number
    rw [List.cons_append, Dialect.readLayer, if_neg noGroup, if_neg noString, if_pos digit]
    exact number

theorem reads_string (value : String) :
    Reads (dialect.readLayer read items) (stringLiteral value) (.string value) := by
  intro rest ends
  have clear := isClear_of_endsName (endsName_of_endsExpr ends)
  have taken := takeQuoted_doubleChars .single value.toList clear
  rw [stringLiteral, enclose, String.toList_ofList, List.cons_append, List.cons_append,
    Dialect.readLayer, if_neg (by decide), if_pos rfl, List.append_assoc, List.singleton_append]
  rw [show Quote.single.closing = '\'' from rfl] at taken
  rw [taken, Option.map_some, String.ofList_toList]

/-- A reserved word is read as what it stands for. -/
theorem reads_word {word : String} {value : Expr} (plain : isPlain word.toList = true)
    (stands : ∀ rest, dialect.readWordExpr items word rest = some (value, rest)) :
    Reads (dialect.readLayer read items) word value := by
  intro rest ends
  rw [readLayer_word plain (endsName_of_endsExpr ends), stands]

theorem reads_call {name : String} {texts : List String} {args : List Expr}
    (plain : isPlain name.toList = true) (free : isReserved name = false)
    (inside : ReadsItems items texts args) :
    Reads (dialect.readLayer read items) (name ++ parenthesized (commaList texts))
      (.call name (some args)) := by
  intro rest ends
  have chars : (name ++ parenthesized (commaList texts)).toList ++ rest =
      name.toList ++ '(' :: ((commaList texts).toList ++ ')' :: rest) := by
    simp only [parenthesized, String.toList_append, List.append_assoc]
    rfl
  rw [chars, readLayer_word plain rfl, readWordExpr_free free, Dialect.readCall, inside rest]
  rfl

theorem readLayer_parenthesized (text : String) (rest : List Char) :
    dialect.readLayer read items ((parenthesized text).toList ++ rest) =
      readGroup read items (text.toList ++ ')' :: rest) := by
  have chars : (parenthesized text).toList ++ rest = '(' :: (text.toList ++ ')' :: rest) := by
    simp only [parenthesized, String.toList_append, List.append_assoc]
    rfl
  rw [chars, Dialect.readLayer, if_pos rfl]

theorem readMore_listTail {texts : List String} {values : List Expr}
    (later : ReadsItems items texts values) (empty : texts = [] → values = []) (first : Expr)
    (rest : List Char) : readMore items first (listTail texts rest) = some (first :: values, rest) := by
  cases texts with
  | nil => rw [listTail, readMore, empty rfl]
  | cons text texts =>
    rw [listTail, readMore, later rest]
    rfl

theorem readsItems_nil (rejects : Rejects read) : ReadsItems (readItemsLayer read items) [] [] := by
  intro rest
  have none := rejects.sign ')' (by simp) rest
  show readItemsLayer read items (')' :: rest) = _
  rw [readItemsLayer, none]
  rfl

theorem readsItems_cons {text : String} {texts : List String} {value : Expr} {values : List Expr}
    (first : Reads read text value) (later : ReadsItems items texts values)
    (empty : texts = [] → values = []) :
    ReadsItems (readItemsLayer read items) (text :: texts) (value :: values) := by
  intro rest
  have found := first (listTail texts rest) (endsExpr_listTail texts rest)
  rw [commaList_cons_append, readItemsLayer, found]
  exact readMore_listTail later empty value rest

theorem reads_list_nil (rejects : Rejects read) :
    Reads (dialect.readLayer read items) (parenthesized (commaList [])) (.list []) := by
  intro rest _
  have none := rejects.sign ')' (by simp) rest
  rw [readLayer_parenthesized]
  show readGroup read items (')' :: rest) = _
  rw [readGroup, none]
  rfl

theorem reads_list_cons {text : String} {texts : List String} {value : Expr} {values : List Expr}
    (first : Reads read text value) (later : ReadsItems items texts values)
    (empty : texts = [] → values = []) :
    Reads (dialect.readLayer read items) (parenthesized (commaList (text :: texts)))
      (.list (value :: values)) := by
  intro rest _
  have found := first (listTail texts rest) (endsExpr_listTail texts rest)
  have more := readMore_listTail later empty value rest
  rw [readLayer_parenthesized, commaList_cons_append, readGroup, found]
  cases texts with
  | nil => exact congrArg (Option.map _) more
  | cons next later => exact congrArg (Option.map _) more

theorem readBinary_append {operator : String} (noSpace : ' ' ∉ operator.toList) (left : Expr)
    (rest : List Char) :
    readBinary read left (operator.toList ++ ' ' :: rest) = readOperand read left operator rest := by
  have all : ∀ c ∈ operator.toList, (c != ' ') = true := fun c member => by
    rw [bne_iff_ne]
    rintro rfl
    exact noSpace member
  have stops : ∀ c, (' ' :: rest).head? = some c → (c != ' ') = false := by
    rintro c first
    cases first
    rfl
  obtain ⟨taken, dropped⟩ := takeWhile_append_of_head all stops
  rw [readBinary, taken, dropped, String.ofList_toList]
  rfl

theorem readGroup_binary {left operator : String} {value : Expr} (noSpace : ' ' ∉ operator.toList)
    (first : Reads read left value) (operand : String) (rest : List Char) :
    readGroup read items ((left ++ " " ++ operator ++ " " ++ operand).toList ++ ')' :: rest) =
      readOperand read value operator (operand.toList ++ ')' :: rest) := by
  have chars : (left ++ " " ++ operator ++ " " ++ operand).toList ++ ')' :: rest =
      left.toList ++ ' ' :: (operator.toList ++ ' ' :: (operand.toList ++ ')' :: rest)) := by
    simp only [String.toList_append, List.append_assoc]
    rfl
  rw [chars, readGroup, first _ rfl]
  exact readBinary_append noSpace value _

/-- A binary operator with one operand after it is read back. -/
theorem reads_binary {left operator right : String} {first second : Expr}
    (noSpace : ' ' ∉ operator.toList) (readsLeft : Reads read left first)
    (readsRight : Reads read right second) :
    Reads (dialect.readLayer read items)
      (parenthesized (left ++ " " ++ operator ++ " " ++ right))
      (.binary operator first second true) := by
  intro rest _
  rw [readLayer_parenthesized, readGroup_binary noSpace readsLeft, readOperand, readsRight _ rfl]
  rfl

/-- A binary operator with two bounds after it is read back. -/
theorem reads_bounds {left operator low high : String} {first lower upper : Expr}
    (noSpace : ' ' ∉ operator.toList) (readsLeft : Reads read left first)
    (readsLow : Reads read low lower) (readsHigh : Reads read high upper) :
    Reads (dialect.readLayer read items)
      (parenthesized (left ++ " " ++ operator ++ " " ++ (low ++ " AND " ++ high)))
      (.binary operator first (.list [lower, upper]) true) := by
  intro rest _
  have chars : (low ++ " AND " ++ high).toList ++ ')' :: rest =
      low.toList ++ ' ' :: 'A' :: 'N' :: 'D' :: ' ' :: (high.toList ++ ')' :: rest) := by
    simp only [String.toList_append, List.append_assoc]
    rfl
  rw [readLayer_parenthesized, readGroup_binary noSpace readsLeft, chars, readOperand, readsLow _ rfl]
  simp only [readClosed, readsHigh (')' :: rest) rfl, Option.map_some]

theorem readUnary_append {operand : String} {value : Expr} (reads : Reads read operand value)
    (operator : String) (rest : List Char) :
    readUnary read operator (operand.toList ++ ')' :: rest) =
      some (.unary operator value true, rest) := by
  rw [readUnary, readClosed, reads _ rfl]
  rfl

/-- A unary operator and its operand are read back. -/
theorem reads_unary {operator operand : String} {value : Expr} (rejects : Rejects read)
    (known : operator ∈ ["-", "+", "~", "not"]) (reads : Reads read operand value) :
    Reads (dialect.readLayer read items)
      (parenthesized (Expr.unarySign operator ++ operand)) (.unary (upper operator) value true) := by
  intro rest _
  rw [readLayer_parenthesized, String.toList_append, List.append_assoc]
  have signed := fun c member => rejects.sign c member (operand.toList ++ ')' :: rest)
  simp only [List.mem_cons, List.not_mem_nil, or_false] at known
  rcases known with rfl | rfl | rfl | rfl
  · show readGroup read items ('-' :: (operand.toList ++ ')' :: rest)) = _
    rw [readGroup, signed '-' (by simp)]
    exact readUnary_append reads "-" rest
  · show readGroup read items ('+' :: (operand.toList ++ ')' :: rest)) = _
    rw [readGroup, signed '+' (by simp)]
    exact readUnary_append reads "+" rest
  · show readGroup read items ('~' :: (operand.toList ++ ')' :: rest)) = _
    rw [readGroup, signed '~' (by simp)]
    exact readUnary_append reads "~" rest
  · show readGroup read items ('N' :: 'O' :: 'T' :: ' ' :: (operand.toList ++ ')' :: rest)) = _
    rw [readGroup, rejects.not]
    exact readUnary_append reads "NOT" rest

end Layer

section Bounded

variable {config : Config}

theorem rejects_readTo (dialect : Dialect) (bound : Nat) : Rejects (dialect.readTo bound) := by
  cases bound with
  | zero => exact ⟨fun _ _ _ => rfl, fun _ => rfl⟩
  | succ bound => exact rejects_readLayer

/-- Items are read back if each of them is. -/
theorem readsItems_readItemsTo (items : List Expr)
    (each : ∀ item ∈ items, ∀ bound, sizeOf item < bound →
      Reads (config.dialect.readTo bound) (item.render config) (item.map .upperOperators)) :
    ∀ bound, sizeOf items < bound →
      ReadsItems (config.dialect.readItemsTo bound) (items.map (Expr.render config))
        (items.map (Expr.map .upperOperators)) := by
  induction items with
  | nil =>
    intro bound enough
    obtain ⟨bound, rfl⟩ := Nat.exists_eq_succ_of_ne_zero (Nat.ne_zero_of_lt enough)
    exact readsItems_nil (rejects_readTo config.dialect bound)
  | cons item items ih =>
    intro bound enough
    obtain ⟨bound, rfl⟩ := Nat.exists_eq_succ_of_ne_zero (Nat.ne_zero_of_lt enough)
    rw [List.cons.sizeOf_spec] at enough
    obtain ⟨first, later⟩ := List.forall_mem_cons.mp each
    exact readsItems_cons (first bound (by omega)) (ih later bound (by omega))
      (fun empty => by simpa using empty)

theorem space_not_mem_upper {operator : String} (parts : operator.toList.all isOperatorPart = true) :
    ' ' ∉ (upper operator).toList := by
  intro member
  have inside := sign_mem_of_mem_upper (by decide) member
  have part := List.all_eq_true.mp parts ' ' inside
  cases part

/-- An explicit expression is read back from its SQL by any reader that goes deep enough, with its
operators in upper case. -/
theorem Expr.reads (quotes : config.quoting ≠ .never) (expr : Expr)
    (explicit : expr.isExplicit = true) (bound : Nat) (enough : sizeOf expr < bound) :
    Reads (config.dialect.readTo bound) (expr.render config) (expr.map .upperOperators) := by
  -- The bound is general: every layer of the tree is read by a reader with a smaller one.
  induction expr using Expr.induct generalizing bound with
  | column ref =>
    obtain ⟨bound, rfl⟩ := Nat.exists_eq_succ_of_ne_zero (Nat.ne_zero_of_lt enough)
    rw [render, map]
    exact reads_column quotes explicit
  | number value =>
    obtain ⟨bound, rfl⟩ := Nat.exists_eq_succ_of_ne_zero (Nat.ne_zero_of_lt enough)
    cases value with
    | double => cases explicit
    | integer value =>
      rw [isExplicit, decide_eq_true_eq] at explicit
      rw [render, map]
      exact reads_number explicit
  | string value =>
    obtain ⟨bound, rfl⟩ := Nat.exists_eq_succ_of_ne_zero (Nat.ne_zero_of_lt enough)
    rw [render, map]
    exact reads_string value
  | quotedString | star | param | callBare | aggregate => cases explicit
  | bool value =>
    obtain ⟨bound, rfl⟩ := Nat.exists_eq_succ_of_ne_zero (Nat.ne_zero_of_lt enough)
    rw [render, map]
    cases value <;> exact reads_word (by decide) fun _ => rfl
  | null =>
    obtain ⟨bound, rfl⟩ := Nat.exists_eq_succ_of_ne_zero (Nat.ne_zero_of_lt enough)
    rw [render, map]
    exact reads_word (by decide) fun _ => rfl
  | binary operator left right parens ihLeft ihRight ihItems =>
    obtain ⟨bound, rfl⟩ := Nat.exists_eq_succ_of_ne_zero (Nat.ne_zero_of_lt enough)
    rw [binary.sizeOf_spec] at enough
    simp only [isExplicit, Bool.and_eq_true] at explicit
    obtain ⟨⟨⟨⟨rfl, _⟩, parts⟩, inLeft⟩, inRight⟩ := explicit
    have noSpace := space_not_mem_upper parts
    have readsLeft := ihLeft inLeft bound (by omega)
    rw [render_binary, map, renderOperand]
    split
    · rename_i low high _ pair
      cases eq_of_bounds? pair
      rw [isExplicit, areExplicit_iff] at inRight
      have bounds : ∀ item ∈ [low, high], Reads (config.dialect.readTo bound) (item.render config)
          (item.map .upperOperators) := fun item member => by
        have smaller := List.sizeOf_lt_of_mem member
        rw [list.sizeOf_spec] at enough
        exact ihItems _ rfl item member (inRight item member) bound (by omega)
      exact reads_bounds noSpace readsLeft (bounds low (by simp)) (bounds high (by simp))
    · exact reads_binary noSpace readsLeft (ihRight inRight bound (by omega))
  | unary operator operand parens ih =>
    obtain ⟨bound, rfl⟩ := Nat.exists_eq_succ_of_ne_zero (Nat.ne_zero_of_lt enough)
    rw [unary.sizeOf_spec] at enough
    simp only [isExplicit, Bool.and_eq_true] at explicit
    obtain ⟨⟨rfl, known⟩, inOperand⟩ := explicit
    rw [render, applyUnary_eq, map]
    exact reads_unary (rejects_readTo config.dialect bound) (List.contains_iff_mem.mp known)
      (ih inOperand bound (by omega))
  | call name args ih =>
    obtain ⟨bound, rfl⟩ := Nat.exists_eq_succ_of_ne_zero (Nat.ne_zero_of_lt enough)
    rw [call.sizeOf_spec, Option.some.sizeOf_spec] at enough
    simp only [isExplicit, Bool.and_eq_true, Bool.not_eq_true', areExplicit_iff] at explicit
    obtain ⟨⟨plain, free⟩, inArgs⟩ := explicit
    rw [render, renderItems_eq_map, map, mapItems_eq]
    refine reads_call plain free (readsItems_readItemsTo args ?_ bound (by omega))
    exact fun arg member => ih arg member (inArgs arg member)
  | list items ih =>
    obtain ⟨bound, rfl⟩ := Nat.exists_eq_succ_of_ne_zero (Nat.ne_zero_of_lt enough)
    rw [list.sizeOf_spec] at enough
    rw [isExplicit, areExplicit_iff] at explicit
    rw [render, renderItems_eq_map, map, mapItems_eq]
    have each := fun item member => ih item member (explicit item member)
    cases items with
    | nil => exact reads_list_nil (rejects_readTo config.dialect bound)
    | cons first later =>
      rw [List.cons.sizeOf_spec] at enough
      obtain ⟨readsFirst, readsLater⟩ := List.forall_mem_cons.mp each
      exact reads_list_cons (readsFirst bound (by omega))
        (readsItems_readItemsTo later readsLater bound (by omega)) fun empty => by simpa using empty

/-- Two explicit expressions with the same SQL are the same tree, up to operators that are the same in
upper case. -/
theorem Expr.map_eq_of_render_eq (quotes : config.quoting ≠ .never) {first second : Expr}
    (firstExplicit : first.isExplicit = true) (secondExplicit : second.isExplicit = true)
    (same : first.render config = second.render config) :
    first.map .upperOperators = second.map .upperOperators := by
  have read : ∀ expr : Expr, expr.isExplicit = true → ∀ bound, sizeOf expr < bound →
      config.dialect.readTo bound (expr.render config).toList =
        some (expr.map .upperOperators, []) := fun expr explicit bound enough => by
    have found := expr.reads quotes explicit bound enough [] rfl
    rwa [List.append_nil] at found
  have firstRead := read first firstExplicit (sizeOf first + sizeOf second + 1) (by omega)
  have secondRead := read second secondExplicit (sizeOf first + sizeOf second + 1) (by omega)
  rw [same, secondRead] at firstRead
  exact (Prod.mk.inj (Option.some.inj firstRead)).1.symm

/-- A range whose operator is spelled in a given way, with a list, a call and quoted names in it. -/
def rangeWith (operator : String) : Expr :=
  .binary operator (.column ⟨some "and", "it's"⟩)
    (.list [.list [.unary "not" (.column (.named "not")) true, .null],
      .call "f" (some [.string "), (", .number (.integer 7)])]) true

theorem rangeWith_map_eq :
    (rangeWith "between").isExplicit = true ∧ (rangeWith "Between").isExplicit = true ∧
      (rangeWith "between").render ⟨.transactSql, .asNeeded⟩ =
        (rangeWith "Between").render ⟨.transactSql, .asNeeded⟩ ∧
      (rangeWith "between").map .upperOperators = (rangeWith "Between").map .upperOperators := by
  have first : (rangeWith "between").isExplicit = true := by decide +kernel
  have second : (rangeWith "Between").isExplicit = true := by decide +kernel
  have same : (rangeWith "between").render ⟨.transactSql, .asNeeded⟩ =
      (rangeWith "Between").render ⟨.transactSql, .asNeeded⟩ := by decide +kernel
  have quotes : Config.quoting ⟨.transactSql, .asNeeded⟩ ≠ .never := by decide
  exact ⟨first, second, same, Expr.map_eq_of_render_eq quotes first second same⟩

end Bounded

end SqlDdl
