import SqlDdl.Proofs.LowerCase
import SqlDdl.Proofs.NumberText
import SqlDdl.Proofs.TokenLists
import SqlDdl.Statement.Decode

/-! The entry that tells the kind of a definition or a statement. Only a text tells a kind that has a rendering: the
JSON text of another value is none of their names. -/

namespace SqlDdl

theorem ascii_of_isNumberPart {c : Char} (part : isNumberPart c = true) : c.toNat < 128 := by
  simp only [isNumberPart, Bool.or_eq_true, beq_iff_eq] at part
  rcases part with (((digit | rfl) | rfl) | rfl) | rfl
  · have high : c.toNat ≤ 57 := (Char.isDigit_iff_toNat.mp digit).2
    omega
  all_goals decide

namespace Json

/-- Whether the JSON text of a number, an array or an object may begin with a character. -/
def isValueStart (c : Char) : Bool :=
  isNumberPart c || c == '[' || c == '\x7b'

theorem toLower_isValueStart : ∀ n : Fin 128, isValueStart (Char.ofNat n) = true →
    (Char.ofNat n).toLower ≠ 't' := by decide

theorem toLower_of_isValueStart {c : Char} (starts : isValueStart c = true) : c.toLower ≠ 't' := by
  have ascii : c.toNat < 128 := by
    simp only [isValueStart, Bool.or_eq_true, beq_iff_eq] at starts
    rcases starts with (part | rfl) | rfl
    · exact ascii_of_isNumberPart part
    all_goals decide
  exact forall_ascii toLower_isValueStart ascii starts

/-- The compact text of a value that is no text is one of three words, or does not begin with a letter of a word. -/
theorem compact_cases {entry : Json} (notText : ∀ text, entry ≠ .string text) :
    entry.compact ∈ ["null", "true", "false"] ∨
      ∀ c ∈ (trim entry.compact).toList.head?, isValueStart c = true := by
  have enclosed : ∀ {opening closing inner : String} {first : Char}, IsToken opening → IsToken closing →
      opening.toList = [first] → isValueStart first = true →
        ∀ c ∈ (trim (opening ++ inner ++ closing)).toList.head?, isValueStart c = true := by
    intro opening closing inner first opens closes single starts c head
    rw [(opens.between closes).trimmed.trim_eq, String.toList_append, String.toList_append, single] at head
    cases head
    exact starts
  cases entry with
  | null => exact Or.inl (by decide)
  | bool value =>
    cases value with
    | true => exact Or.inl (by decide)
    | false => exact Or.inl (by decide)
  | number value =>
    refine Or.inr fun c head => ?_
    have part := value.isNumberPart_text c (mem_of_mem_trim (List.mem_of_mem_head? head))
    rw [isValueStart, part]
    rfl
  | string text => exact absurd rfl (notText text)
  | array items =>
    rw [compact]
    exact Or.inr (enclosed ⟨by decide, by decide⟩ ⟨by decide, by decide⟩ rfl (by decide))
  | object entries =>
    rw [compact]
    exact Or.inr (enclosed ⟨by decide, by decide⟩ ⟨by decide, by decide⟩ rfl (by decide))

theorem keywordText_eq_compact {entry : Json} (notText : ∀ text, entry ≠ .string text) :
    entry.keywordText = entry.compact := by
  cases entry with
  | string text => exact absurd rfl (notText text)
  | _ => rfl

/-- A value whose text is a word is that word, if no JSON text of another value is such a word. -/
theorem eq_of_keywordText {entry : Json} {word : String} (same : entry.keywordText = word)
    (other : word ∉ ["null", "true", "false"])
    (letter : ∃ c ∈ (trim word).toList.head?, isValueStart c = false) : entry = .string word := by
  by_cases isText : ∃ text, entry = .string text
  · obtain ⟨text, rfl⟩ := isText
    exact congrArg Json.string same
  · have notText : ∀ text, entry ≠ .string text := not_exists.mp isText
    have compact : entry.compact = word := (keywordText_eq_compact notText).symm.trans same
    rcases compact_cases notText with known | starts
    · exact absurd (compact ▸ known) other
    · obtain ⟨c, head, isLetter⟩ := letter
      rw [starts c (compact.symm ▸ head)] at isLetter
      cases isLetter

/-- No value but a text has the lower case of a word that begins with a `t`. -/
theorem lower_compact_ne {entry : Json} {word : String} {later : List Char}
    (notText : ∀ text, entry ≠ .string text) (starts : word.toList = 't' :: later)
    (letters : ∀ d ∈ word.toList, isOwnLower d = true)
    (other : ∀ known ∈ ["null", "true", "false"], lower (trim known) ≠ word) :
    lower (trim entry.compact) ≠ word := by
  intro same
  rcases compact_cases notText with known | head
  · exact other _ known same
  · have present : word ≠ "" := by
      rintro rfl
      cases starts
    have lowered := (keyword?_of_lower same present letters).2
    rw [starts] at lowered
    obtain ⟨c, cs, shape, first, -⟩ := List.map_eq_cons_iff.mp lowered
    exact toLower_of_isValueStart (head c (by rw [shape]; rfl)) first

end Json

namespace Definition

variable {json entry : Json}

/-- The kinds of definitions that an entry may tell. -/
theorem kind_cases (entry : Json) :
    entry = .string "column" ∨ entry = .string "index" ∨ entry = .string "constraint" ∨
      entry.keywordText ≠ "column" ∧ entry.keywordText ≠ "index" ∧ entry.keywordText ≠ "constraint" := by
  by_cases isColumn : entry.keywordText = "column"
  · exact Or.inl (Json.eq_of_keywordText isColumn (by decide) ⟨'c', rfl, rfl⟩)
  by_cases isIndex : entry.keywordText = "index"
  · exact Or.inr (Or.inl (Json.eq_of_keywordText isIndex (by decide) ⟨'i', rfl, rfl⟩))
  by_cases isConstraint : entry.keywordText = "constraint"
  · exact Or.inr (Or.inr (Or.inl (Json.eq_of_keywordText isConstraint (by decide) ⟨'c', rfl, rfl⟩)))
  · exact Or.inr (Or.inr (Or.inr ⟨isColumn, isIndex, isConstraint⟩))

theorem decode_column (kind : json.get? "resource" = some (.string "column")) :
    decode json = (ColumnDefinition.decode json).map column := by
  simp only [decode, kind, Json.keywordText]

theorem decode_index (kind : json.get? "resource" = some (.string "index")) :
    decode json = (IndexDefinition.decode json).map index := by
  simp only [decode, kind, Json.keywordText]

theorem decode_constraint (kind : json.get? "resource" = some (.string "constraint")) :
    decode json = (ConstraintDefinition.decode json).map constraint := by
  simp only [decode, kind, Json.keywordText]

theorem decode_unsupported (found : json.get? "resource" = some entry)
    (other : entry.keywordText ≠ "column" ∧ entry.keywordText ≠ "index" ∧ entry.keywordText ≠ "constraint") :
    decode json = .ok (unsupported entry.keywordText) := by
  obtain ⟨column, index, constraint⟩ := other
  simp only [decode, found]

/-- A value that is no text tells none of the kinds with a rendering. -/
theorem decode_notText (found : json.get? "resource" = some entry) (notText : ∀ text, entry ≠ .string text) :
    decode json = .ok (unsupported entry.keywordText) := by
  rcases kind_cases entry with same | same | same | other
  · exact absurd same (notText _)
  · exact absurd same (notText _)
  · exact absurd same (notText _)
  · exact decode_unsupported found other

end Definition

namespace Statement

variable {json entry : Json} {keyword : String}

theorem isOwnLower_table : ∀ d ∈ "table".toList, isOwnLower d = true := by decide

theorem isOwnLower_trigger : ∀ d ∈ "trigger".toList, isOwnLower d = true := by decide

theorem lower_known : ∀ known ∈ ["null", "true", "false"],
    lower (trim known) ≠ "table" ∧ lower (trim known) ≠ "trigger" := by decide +kernel

/-- The JSON text of a value that is no text tells none of the kinds with a rendering. -/
theorem lower_compact_ne (notText : ∀ text, entry ≠ .string text) :
    lower (trim entry.compact) ≠ "table" ∧ lower (trim entry.compact) ≠ "trigger" :=
  ⟨Json.lower_compact_ne notText rfl isOwnLower_table fun known member => (lower_known known member).1,
    Json.lower_compact_ne notText rfl isOwnLower_trigger fun known member => (lower_known known member).2⟩

/-- The kinds of statements that an entry may tell. -/
theorem kind_cases (entry : Json) :
    (∃ keyword, entry = .string keyword ∧ lower (trim keyword) = "table") ∨
      (∃ keyword, entry = .string keyword ∧ lower (trim keyword) = "trigger") ∨
      lower (trim entry.keywordText) ≠ "table" ∧ lower (trim entry.keywordText) ≠ "trigger" := by
  by_cases isText : ∃ keyword, entry = .string keyword
  · obtain ⟨keyword, rfl⟩ := isText
    by_cases isTable : lower (trim keyword) = "table"
    · exact Or.inl ⟨keyword, rfl, isTable⟩
    by_cases isTrigger : lower (trim keyword) = "trigger"
    · exact Or.inr (Or.inl ⟨keyword, rfl, isTrigger⟩)
    · exact Or.inr (Or.inr ⟨isTable, isTrigger⟩)
  · have notText : ∀ text, entry ≠ .string text := not_exists.mp isText
    rw [Json.keywordText_eq_compact notText]
    exact Or.inr (Or.inr (lower_compact_ne notText))

theorem decode_table (isTable : lower (trim keyword) = "table")
    (found : json.get? "keyword" = some (.string keyword)) :
    decode json = (TableStatement.decode json).map table := by
  simp only [decode, found, Json.keywordText, isTable]

theorem decode_trigger (isTrigger : lower (trim keyword) = "trigger")
    (found : json.get? "keyword" = some (.string keyword)) :
    decode json = (TriggerStatement.decode json).map trigger := by
  simp only [decode, found, Json.keywordText, isTrigger]

theorem decode_unsupported (found : json.get? "keyword" = some entry)
    (other : lower (trim entry.keywordText) ≠ "table" ∧ lower (trim entry.keywordText) ≠ "trigger") :
    decode json = .ok (unsupported entry.keywordText) := by
  obtain ⟨table, trigger⟩ := other
  simp only [decode, found]

end Statement

end SqlDdl
