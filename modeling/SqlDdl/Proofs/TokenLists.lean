import SqlDdl.Proofs.Layout

/-! Which tokens of a list are written. A token that is not empty and has no blanks at its ends is written as
it stands. -/

namespace SqlDdl

/-- Whether a text is not empty and has no blank at its ends. -/
structure IsToken (text : String) : Prop where
  present : text ≠ ""
  trimmed : IsTrimmed text.toList

namespace IsToken

variable {config : Config} {text : String}

theorem exists_head (token : IsToken text) : ∃ c cs, text.toList = c :: cs ∧ isBlank c = false := by
  have filled : text.toList ≠ [] := mt String.toList_eq_nil_iff.mp token.present
  obtain ⟨c, cs, shape⟩ := List.exists_cons_of_ne_nil filled
  have first : c ∈ text.toList.head? := by rw [shape]; rfl
  exact ⟨c, cs, shape, token.trimmed.1 c first⟩

theorem hasText (token : IsToken text) : hasText text = true := by
  obtain ⟨c, cs, shape, filled⟩ := token.exists_head
  have letter : (!isBlank c) = true := by rw [filled]; rfl
  exact List.any_eq_true.mpr ⟨c, by rw [shape]; exact List.mem_cons_self, letter⟩

/-- Anything may stand between two tokens. -/
theorem between {first middle second : String} (before : IsToken first) (after : IsToken second) :
    IsToken (first ++ middle ++ second) := by
  obtain ⟨c, cs, front, filled⟩ := before.exists_head
  have back : second.toList ≠ [] := mt String.toList_eq_nil_iff.mp after.present
  refine ⟨fun none => before.present ?_, fun d head => ?_, fun d last => ?_⟩
  · have both := String.append_eq_empty_iff.mp none
    exact (String.append_eq_empty_iff.mp both.1).1
  · simp only [String.toList_append, front, List.cons_append, List.head?_cons, Option.mem_some] at head
    exact head ▸ filled
  · rw [String.toList_append, List.getLast?_append, List.getLast?_eq_some_getLast back, Option.some_or,
      ← List.getLast?_eq_some_getLast back] at last
    exact after.trimmed.2 d last

theorem intercalate {separator : String} {texts : List String} (present : texts ≠ [])
    (each : ∀ text ∈ texts, IsToken text) : IsToken (separator.intercalate texts) :=
  holds_intercalate between present each

theorem ofWord (isWord : IsWord text.toList) : IsToken text :=
  ⟨fun none => isWord.1 (String.toList_eq_nil_iff.mpr none), isWord.isTrimmed⟩

/-- A keyword in its normal form. -/
theorem keyword {keyword : String} (normal : keyword? text = some keyword) : IsToken keyword := by
  refine holds_keyword between (fun word split => ofWord ?_) normal
  rw [upper, String.toList_ofList, String.toList_ofList]
  exact (isWord_of_mem_splitWords split).upperChars

theorem enclose {opening closing : Char} (opens : isBlank opening = false)
    (closes : isBlank closing = false) (value : String) : IsToken (enclose opening closing value) := by
  have chars : (SqlDdl.enclose opening closing value).toList =
      opening :: doubleChars closing value.toList ++ [closing] := String.toList_ofList
  refine ⟨fun none => ?_, fun c head => ?_, fun c last => ?_⟩
  · rw [none] at chars
    cases chars
  · rw [chars] at head
    exact Option.mem_some.mp head ▸ opens
  · rw [chars, List.getLast?_concat] at last
    exact Option.mem_some.mp last ▸ closes

theorem parenthesized (inner : String) : IsToken (parenthesized inner) := by
  have opening : IsToken "(" := ⟨by decide, by decide⟩
  have closing : IsToken ")" := ⟨by decide, by decide⟩
  exact opening.between closing

end IsToken

theorem isBlank_of_isPlainPart {c : Char} (part : isPlainPart c = true) : isBlank c = false := by
  have blanks : ∀ n ∈ blankPoints, isPlainPart (Char.ofNat n) = false := by decide
  exact isBlank_eq_false blanks part

section Names

variable {config : Config}

/-- A name is written as a token. -/
theorem isToken_quote (quotes : config.quoting ≠ .never) (name : String) : IsToken (config.quote name) := by
  rcases quote_cases quotes name with wrapped | ⟨bare, plain, _⟩
  · have opens : isBlank config.dialect.openQuote = false := by cases config.dialect <;> rfl
    have closes : isBlank config.dialect.closeQuote = false := by cases config.dialect <;> rfl
    rw [wrapped]
    exact .enclose opens closes name
  · rw [bare]
    refine .ofWord ⟨fun none => ?_, fun c member => ?_⟩
    · rw [none] at plain
      cases plain
    · exact isBlank_of_isPlainPart (isPlainPart_of_mem plain c member)

theorem ColumnRef.isToken_render (quotes : config.quoting ≠ .never) (ref : ColumnRef) :
    IsToken (ref.render config) := by
  have column : IsToken (if ref.column = "*" then "*" else config.quote ref.column) := by
    split
    · exact ⟨by decide, by decide⟩
    · exact isToken_quote quotes ref.column
  simp only [render]
  split
  · rename_i table _
    exact (isToken_quote quotes table).between column
  · exact column

end Names

/-- Every text but the first one has the separator before it. -/
theorem intercalate_cons (separator first : String) (later : List String) :
    separator.intercalate (first :: later) = first ++ String.join (later.map (separator ++ ·)) := by
  induction later generalizing first with
  | nil => rw [String.intercalate_singleton, List.map_nil, String.join_nil, String.append_empty]
  | cons next later ih =>
    rw [String.intercalate_cons_cons, ih next, List.map_cons, String.join_cons, String.append_assoc,
      String.append_assoc]

theorem mem_toList_intercalate {separator text : String} {texts : List String} {c : Char} (inside : text ∈ texts)
    (member : c ∈ text.toList) : c ∈ (separator.intercalate texts).toList := by
  induction texts with
  | nil => cases inside
  | cons first later ih =>
    cases later with
    | nil =>
      rw [String.intercalate_singleton]
      exact List.mem_singleton.mp inside ▸ member
    | cons next later =>
      rw [String.intercalate_cons_cons, String.toList_append, String.toList_append]
      rcases List.mem_cons.mp inside with rfl | rest
      · exact List.mem_append_left _ (List.mem_append_left _ member)
      · exact List.mem_append_right _ (ih rest)

/-- Texts before others are written with the separator after each of them. -/
theorem intercalate_append (separator : String) (front : List String) {back : List String} (present : back ≠ []) :
    separator.intercalate (front ++ back) =
      String.join (front.map (· ++ separator)) ++ separator.intercalate back := by
  induction front with
  | nil => rw [List.nil_append, List.map_nil, String.join_nil, String.empty_append]
  | cons text front ih =>
    have rest : front ++ back ≠ [] := List.append_ne_nil_of_right_ne_nil front present
    rw [List.cons_append, String.intercalate_cons_of_ne_nil rest, ih, List.map_cons, String.join_cons,
      String.append_assoc, String.append_assoc, String.append_assoc]

/-- No more separators are in a text than characters. -/
theorem length_le_intercalate {separator : String} (filled : separator ≠ "") (first : String)
    (later : List String) : later.length ≤ (separator.intercalate (first :: later)).toList.length := by
  induction later generalizing first with
  | nil => exact Nat.zero_le _
  | cons next later ih =>
    have rest := ih next
    have positive : 0 < separator.toList.length :=
      List.length_pos_iff.mpr (mt String.toList_eq_nil_iff.mp filled)
    rw [String.intercalate_cons_cons, String.toList_append, String.toList_append, List.length_append,
      List.length_append, List.length_cons]
    omega

namespace Tokens

theorem toList_append (first second : Tokens) :
    (first ++ second).toList = first.toList ++ second.toList := by
  show ((first.entries ++ second.entries).filterMap id).filter hasText = _
  rw [List.filterMap_append, List.filter_append]
  rfl

theorem toList_opt {value : Option String} (token : ∀ text, value = some text → IsToken text) :
    (opt value).toList = value.toList := by
  cases value with
  | none => rfl
  | some text =>
    have own := token text rfl
    show [trim text].filter hasText = [text]
    rw [own.trimmed.trim_eq, List.filter_cons_of_pos own.hasText, List.filter_nil]

theorem toList_text {value : String} (token : IsToken value) : (text value).toList = [value] := by
  refine toList_opt fun text same => ?_
  cases same
  exact token

theorem toList_word (value : String) : (word value).toList = (keyword? value).toList :=
  toList_opt fun _ normal => .keyword normal

/-- Whether all tokens of a list have no blanks at their ends. -/
abbrev AllTrimmed : Tokens → Prop :=
  Each fun text => IsTrimmed text.toList

theorem allTrimmed_opt (value : Option String) : AllTrimmed (opt value) :=
  .opt fun text _ => isTrimmed_trim text

theorem AllTrimmed.isToken {tokens : Tokens} (trimmed : AllTrimmed tokens) :
    ∀ text ∈ tokens.toList, IsToken text := by
  intro text member
  have filled : hasText text = true := (List.mem_filter.mp member).2
  refine ⟨?_, trimmed.toList text member⟩
  rintro rfl
  cases filled

end Tokens

end SqlDdl
