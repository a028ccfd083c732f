import SqlDdl.Expr.Render
import SqlDdl.Proofs.Pieces
import SqlDdl.Tokens

/-! Texts whose parentheses match outside of quotes. They stay so when they are trimmed, put one after the
other or put between parentheses. -/

namespace SqlDdl

/-- The characters that open or close something. -/
def brackets : List Char := quoteMarks ++ ['(', ')']

/-- The brackets, and the comma unless commas are allowed. -/
def marks (commas : Bool) : List Char :=
  if commas then brackets else ',' :: brackets

/-- The depth of parentheses after a piece, unless it falls below zero. Without `commas` there may be no
comma at depth zero either. -/
def nest (commas : Bool) (depth : Nat) : Piece → Option Nat
  | .quoted _ _ => some depth
  | .bare c =>
    if c = '(' then some (depth + 1)
    else if c = ')' then if depth = 0 then none else some (depth - 1)
    else if c = ',' ∧ depth = 0 ∧ commas = false then none
    else some depth

/-- The depth of parentheses after some pieces. -/
def level (commas : Bool) (depth : Nat) (pieces : List Piece) : Option Nat :=
  pieces.foldlM (nest commas) depth

/-- Whether a scanner of a text ends outside of quotes and at depth zero, and is never below it. -/
def WellBracketed (dialect : Dialect) (commas : Bool) (text : String) : Prop :=
  (dialect.pieces? text.toList).bind (level commas 0) = some 0

instance (dialect : Dialect) (commas : Bool) (text : String) :
    Decidable (WellBracketed dialect commas text) :=
  inferInstanceAs (Decidable (_ = _))

variable {dialect : Dialect} {commas : Bool}

theorem level_append (depth : Nat) (first second : List Piece) :
    level commas depth (first ++ second) =
      (level commas depth first).bind (level commas · second) :=
  List.foldlM_append

theorem nest_succ {depth next : Nat} {piece : Piece} (reached : nest true depth piece = some next) :
    nest commas (depth + 1) piece = some (next + 1) := by
  cases piece with
  | quoted => exact congrArg (·.map (· + 1)) reached
  | bare c =>
    simp only [nest] at reached ⊢
    grind

theorem nest_true {depth next : Nat} {piece : Piece} (reached : nest commas depth piece = some next) :
    nest true depth piece = some next := by
  cases piece with
  | quoted => exact reached
  | bare c =>
    simp only [nest] at reached ⊢
    grind

/-- Inside of parentheses commas do not count. -/
theorem level_succ {depth final : Nat} {pieces : List Piece}
    (reached : level true depth pieces = some final) :
    level commas (depth + 1) pieces = some (final + 1) := by
  induction pieces generalizing depth with
  | nil => exact congrArg (·.map (· + 1)) reached
  | cons piece pieces ih =>
    obtain ⟨next, first, later⟩ := Option.bind_eq_some_iff.mp reached
    exact Option.bind_eq_some_iff.mpr ⟨next + 1, nest_succ first, ih later⟩

theorem level_true {depth final : Nat} {pieces : List Piece}
    (reached : level commas depth pieces = some final) : level true depth pieces = some final := by
  induction pieces generalizing depth with
  | nil => exact reached
  | cons piece pieces ih =>
    obtain ⟨next, first, later⟩ := Option.bind_eq_some_iff.mp reached
    exact Option.bind_eq_some_iff.mpr ⟨next, nest_true first, ih later⟩

theorem not_mem_brackets {c : Char} (clean : c ∉ marks commas) : c ∉ brackets := by
  intro member
  cases commas with
  | true => exact clean member
  | false => exact clean (List.mem_cons_of_mem _ member)

theorem not_mem_quoteMarks {c : Char} (clean : c ∉ marks commas) : c ∉ quoteMarks :=
  fun member => not_mem_brackets clean (List.mem_append_left _ member)

theorem without_marks {text : String} (clean : Without (',' :: brackets) text) :
    Without (marks commas) text := by
  intro c member marked
  cases commas with
  | true => exact clean c member (List.mem_cons_of_mem _ marked)
  | false => exact clean c member marked

theorem Without.quoteMarks {text : String} (clean : Without (marks commas) text) :
    Without quoteMarks text :=
  fun c member => not_mem_quoteMarks (clean c member)

theorem nest_bare {c : Char} (clean : c ∉ marks commas) (depth : Nat) :
    nest commas depth (.bare c) = some depth := by
  have opens : c ≠ '(' := by
    rintro rfl
    exact not_mem_brackets clean (by decide)
  have closes : c ≠ ')' := by
    rintro rfl
    exact not_mem_brackets clean (by decide)
  have noComma : ¬(c = ',' ∧ depth = 0 ∧ commas = false) := by
    rintro ⟨rfl, _, rfl⟩
    exact clean List.mem_cons_self
  simp only [nest, if_neg opens, if_neg closes, if_neg noComma]

theorem level_map_bare {cs : List Char} (clean : ∀ c ∈ cs, c ∉ marks commas) (depth : Nat) :
    level commas depth (cs.map .bare) = some depth := by
  induction cs with
  | nil => rfl
  | cons c cs ih =>
    refine Option.bind_eq_some_iff.mpr ⟨depth, nest_bare (clean c List.mem_cons_self) depth, ?_⟩
    exact ih fun d member => clean d (List.mem_cons_of_mem _ member)

theorem blank_not_mem_marks {c : Char} (blank : isBlank c = true) : c ∉ marks commas := by
  intro member
  have outside : ((marks commas).all fun d => !isBlank d) = true := by cases commas <;> decide
  have apart := List.all_eq_true.mp outside c member
  rw [blank] at apart
  cases apart

theorem Dialect.pieces?_parenthesized {text : String} {pieces : List Piece}
    (read : dialect.pieces? text.toList = some pieces) :
    dialect.pieces? (parenthesized text).toList = some (.bare '(' :: (pieces ++ [.bare ')'])) := by
  have opens : dialect.quoteAt? '(' = none := by cases dialect <;> rfl
  have closes : dialect.quoteAt? ')' = none := by cases dialect <;> rfl
  rw [parenthesized, String.toList_append, String.toList_append]
  show dialect.pieces? ('(' :: (text.toList ++ [')'])) = _
  rw [pieces?_bare opens, pieces?_append read rfl, pieces?_bare closes, pieces?_nil]
  rfl

namespace WellBracketed

theorem exists_pieces {text : String} (balanced : WellBracketed dialect commas text) :
    ∃ pieces, dialect.pieces? text.toList = some pieces ∧ level commas 0 pieces = some 0 :=
  Option.bind_eq_some_iff.mp balanced

theorem ofPieces {text : String} {pieces : List Piece}
    (read : dialect.pieces? text.toList = some pieces) (reached : level commas 0 pieces = some 0) :
    WellBracketed dialect commas text :=
  Option.bind_eq_some_iff.mpr ⟨pieces, read, reached⟩

/-- A text without brackets before another one. -/
theorem plainAppend {first second : String} (clean : Without (marks commas) first)
    (balanced : WellBracketed dialect commas second) :
    WellBracketed dialect commas (first ++ second) := by
  obtain ⟨pieces, read, reached⟩ := balanced.exists_pieces
  have joined : level commas 0 (first.toList.map .bare ++ pieces) = some 0 := by
    rw [level_append, level_map_bare clean]
    exact reached
  refine ofPieces ?_ joined
  rw [Dialect.pieces?_plainAppend clean.quoteMarks, read]
  rfl

theorem empty : WellBracketed dialect commas "" :=
  ofPieces Dialect.pieces?_nil rfl

/-- A text without brackets. -/
theorem plain {text : String} (clean : Without (marks commas) text) :
    WellBracketed dialect commas text := by
  rw [← String.append_empty (s := text)]
  exact plainAppend clean empty

/-- A quoted token, whatever its content is. -/
theorem enclose (quote : Quote) (opens : dialect.quoteAt? quote.opening = some quote)
    (value : String) :
    WellBracketed dialect commas (SqlDdl.enclose quote.opening quote.closing value) :=
  ofPieces (Dialect.pieces?_enclose opens value) rfl

theorem append {first second : String} (before : WellBracketed dialect commas first)
    (after : WellBracketed dialect commas second) (clear : isClear second.toList = true) :
    WellBracketed dialect commas (first ++ second) := by
  obtain ⟨front, readFront, reachedFront⟩ := before.exists_pieces
  obtain ⟨back, readBack, reachedBack⟩ := after.exists_pieces
  have joined : level commas 0 (front ++ back) = some 0 := by
    rw [level_append, reachedFront]
    exact reachedBack
  refine ofPieces ?_ joined
  rw [String.toList_append, Dialect.pieces?_append readFront clear, readBack]
  rfl

/-- Two texts with a text without brackets between them. -/
theorem between {first middle second : String} (before : WellBracketed dialect commas first)
    (clean : Without (marks commas) middle) (filled : middle ≠ "")
    (after : WellBracketed dialect commas second) :
    WellBracketed dialect commas (first ++ middle ++ second) := by
  rw [String.append_assoc]
  exact before.append (plainAppend clean after) (isClear_of_without clean.quoteMarks filled second)

/-- A text between parentheses, in which commas are allowed. -/
theorem parenthesized {text : String} (inside : WellBracketed dialect true text) :
    WellBracketed dialect commas (SqlDdl.parenthesized text) := by
  obtain ⟨pieces, read, reached⟩ := inside.exists_pieces
  have joined : level commas 0 (.bare '(' :: (pieces ++ [.bare ')'])) = some 0 := by
    show level commas 1 (pieces ++ [.bare ')']) = some 0
    rw [level_append, level_succ reached]
    rfl
  exact ofPieces (Dialect.pieces?_parenthesized read) joined

theorem ofCommas {text : String} (balanced : WellBracketed dialect commas text) :
    WellBracketed dialect true text := by
  obtain ⟨pieces, read, reached⟩ := balanced.exists_pieces
  exact ofPieces read (level_true reached)

theorem trim {text : String} (balanced : WellBracketed dialect commas text) :
    WellBracketed dialect commas (SqlDdl.trim text) := by
  obtain ⟨pieces, read, reached⟩ := balanced.exists_pieces
  obtain ⟨before, after, inner, found, rfl, blankBefore, blankAfter⟩ := Dialect.pieces?_trim read
  have around : ∀ {cs : List Char} depth, (∀ c ∈ cs, isBlank c = true) →
      level commas depth (cs.map .bare) = some depth := fun depth blank =>
    level_map_bare (fun c member => blank_not_mem_marks (blank c member)) depth
  rw [level_append, level_append, around 0 blankBefore] at reached
  obtain ⟨depth, inside, last⟩ := Option.bind_eq_some_iff.mp reached
  rw [around depth blankAfter] at last
  exact ofPieces found (Option.some.inj last ▸ inside)

end WellBracketed

end SqlDdl
