import SqlDdl.Proofs.Names

/-! A reader of names. It takes a name off the front of a text, whatever characters are in the name. -/

namespace SqlDdl

/-- A reader takes a value off the front of a text and returns what follows it. -/
abbrev Reader (α : Type) := List Char → Option (α × List Char)

/-- Reads a run of characters of plain names. -/
def readWord : Reader String := fun cs =>
  if cs.takeWhile isPlainPart = [] then none
  else some (String.ofList (cs.takeWhile isPlainPart), cs.dropWhile isPlainPart)

/-- Reads a name, which may be between the quotes of a dialect. -/
def Dialect.readName (dialect : Dialect) : Reader String
  | [] => none
  | c :: cs =>
    if c = dialect.openQuote then
      (takeQuoted dialect.closeQuote cs).map fun found => (String.ofList found.1, found.2)
    else readWord (c :: cs)

/-- Whether a name ends where a text begins. -/
def endsName : List Char → Bool
  | [] => true
  | c :: cs => isClear (c :: cs) && !isPlainPart c

theorem isClear_of_endsName {cs : List Char} (ends : endsName cs = true) : isClear cs = true := by
  cases cs with
  | nil => rfl
  | cons c cs =>
    simp only [endsName, Bool.and_eq_true] at ends
    exact ends.1

/-- A run of characters is taken up to the first one that does not belong to it. -/
theorem takeWhile_append_of_head {p : Char → Bool} {front rest : List Char}
    (all : ∀ c ∈ front, p c = true) (stops : ∀ c, rest.head? = some c → p c = false) :
    (front ++ rest).takeWhile p = front ∧ (front ++ rest).dropWhile p = rest := by
  rw [List.takeWhile_append_of_pos all, List.dropWhile_append_of_pos all]
  cases rest with
  | nil => exact ⟨List.append_nil front, rfl⟩
  | cons c rest =>
    have stop := stops c rfl
    simp only [List.takeWhile_cons, List.dropWhile_cons, stop, Bool.false_eq_true, if_false,
      List.append_nil, and_self]

theorem head_of_endsName {cs : List Char} (ends : endsName cs = true) :
    ∀ c, cs.head? = some c → isPlainPart c = false := by
  intro c first
  cases cs with
  | nil => cases first
  | cons d cs =>
    cases first
    simp only [endsName, Bool.and_eq_true, Bool.not_eq_true'] at ends
    exact ends.2

/-- A plain word is read up to where it ends. -/
theorem readWord_append {word : String} {rest : List Char} (plain : isPlain word.toList = true)
    (ends : endsName rest = true) : readWord (word.toList ++ rest) = some (word, rest) := by
  have filled : word.toList ≠ [] := by
    intro empty
    rw [empty] at plain
    cases plain
  obtain ⟨taken, left⟩ :=
    takeWhile_append_of_head (isPlainPart_of_mem plain) (head_of_endsName ends)
  rw [readWord, taken, left, if_neg filled, String.ofList_toList]

theorem not_isDigit_of_isPlainStart {c : Char} (start : isPlainStart c = true) :
    c.isDigit = false := by
  cases digit : c.isDigit with
  | false => rfl
  | true =>
    have high : c.toNat ≤ 57 := (Char.isDigit_iff_toNat.mp digit).2
    simp only [isPlainStart, Bool.or_eq_true, Bool.and_eq_true, decide_eq_true_eq, beq_iff_eq,
      Char.le_def, UInt32.le_iff_toNat_le] at start
    rcases start with (⟨low, _⟩ | ⟨low, _⟩) | rfl
    · have low : 65 ≤ c.toNat := low
      omega
    · have low : 97 ≤ c.toNat := low
      omega
    · cases digit

theorem not_isPlainPart_openQuote (dialect : Dialect) : isPlainPart dialect.openQuote = false := by
  cases dialect <;> decide

theorem Dialect.readName_word (dialect : Dialect) {word : String} {rest : List Char}
    (plain : isPlain word.toList = true) (ends : endsName rest = true) :
    dialect.readName (word.toList ++ rest) = some (word, rest) := by
  have read := readWord_append plain ends
  cases shape : word.toList with
  | nil =>
    rw [shape] at plain
    cases plain
  | cons c cs =>
    have part := isPlainPart_of_mem plain c (shape ▸ List.mem_cons_self)
    have other : c ≠ dialect.openQuote := by
      rintro rfl
      rw [not_isPlainPart_openQuote] at part
      cases part
    rw [shape, List.cons_append] at read
    rw [List.cons_append, readName, if_neg other, read]

theorem Dialect.readName_wrapped (dialect : Dialect) (name : String) {rest : List Char}
    (clear : isClear rest = true) :
    dialect.readName ((wrapIdentifier dialect name).toList ++ rest) = some (name, rest) := by
  have taken := takeQuoted_doubleChars dialect.quote name.toList clear
  rw [← dialect.closeQuote_eq] at taken
  rw [wrapIdentifier, enclose, String.toList_ofList, List.cons_append, List.cons_append, readName,
    if_pos rfl, List.append_assoc, List.singleton_append, taken, Option.map_some, String.ofList_toList]

/-- A name is read back from the way in which it is written. -/
theorem readName_quote {config : Config} (quotes : config.quoting ≠ .never) (name : String)
    {rest : List Char} (ends : endsName rest = true) :
    config.dialect.readName ((config.quote name).toList ++ rest) = some (name, rest) := by
  rcases quote_cases quotes name with wrapped | ⟨bare, plain, _⟩
  · rw [wrapped]
    exact config.dialect.readName_wrapped name (isClear_of_endsName ends)
  · rw [bare]
    exact config.dialect.readName_word plain ends

end SqlDdl
