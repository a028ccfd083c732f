import SqlDdl.Proofs.Spellings

/-! The normal forms of keywords are the texts of words in upper case with one space between them. Blanks between two
texts keep their normal forms apart. -/

namespace SqlDdl

section Words

theorem splitWords_separated {blanks : List Char} (present : blanks ≠ []) (blank : ∀ c ∈ blanks, isBlank c = true)
    (cs rest : List Char) : splitWords (cs ++ (blanks ++ rest)) = splitWords cs ++ splitWords rest := by
  induction cs using splitWords_induct with
  | nil => exact splitWords_blanks blank rest
  | blank c cs isBlank ih => rw [List.cons_append, splitWords_blank isBlank, splitWords_blank isBlank, ih]
  | word word cs isWord ends ih =>
    -- The word ends where it did: before a blank of its own text, or before the first of the blanks.
    have starts : (cs ++ (blanks ++ rest)).head?.all isBlank = true := by
      cases cs with
      | cons c cs => exact ends
      | nil =>
        obtain ⟨c, blanks, rfl⟩ := List.exists_cons_of_ne_nil present
        exact blank c List.mem_cons_self
    rw [List.append_assoc, splitWords_word isWord starts, splitWords_word isWord ends, ih, List.cons_append]

/-- Blanks between two texts keep their words apart. -/
theorem words_separated {blanks : String} (present : blanks ≠ "") (blank : hasText blanks = false)
    (text later : String) : words (text ++ blanks ++ later) = words text ++ words later := by
  have filled : blanks.toList ≠ [] := mt String.toList_eq_nil_iff.mp present
  have each : ∀ c ∈ blanks.toList, isBlank c = true :=
    keyword?_eq_none_iff.mp (keyword?_eq_none_iff_hasText.mpr blank)
  rw [words, String.toList_append, String.toList_append, List.append_assoc, splitWords_separated filled each,
    List.map_append]
  rfl

theorem words_eq_nil_iff {text : String} : words text = [] ↔ keyword? text = none := by
  rw [words, List.map_eq_nil_iff, splitWords_eq_nil_iff, keyword?_eq_none_iff]

theorem keyword?_of_words {text : String} (filled : words text ≠ []) :
    keyword? text = some (" ".intercalate ((words text).map upper)) := by
  obtain ⟨keyword, normal⟩ := Option.ne_none_iff_exists'.mp (mt words_eq_nil_iff.mpr filled)
  rw [normal, (eq_words_of_keyword? normal).2]

/-- Whether a text is a single word in upper case. -/
def IsKeywordWord (text : String) : Prop :=
  IsWord text.toList ∧ upper text = text

theorem isKeywordWord_upper {text word : String} (inside : word ∈ (words text).map upper) : IsKeywordWord word := by
  obtain ⟨source, member, rfl⟩ := List.mem_map.mp inside
  obtain ⟨cs, split, rfl⟩ := List.mem_map.mp member
  rw [upper, String.toList_ofList, IsKeywordWord, upper, String.toList_ofList, upperChars_upperChars]
  exact ⟨(isWord_of_mem_splitWords split).upperChars, rfl⟩

/-- Words in upper case with one space between them are a keyword in its normal form. -/
theorem keyword?_intercalate {found : List String} (present : found ≠ []) (each : ∀ word ∈ found, IsKeywordWord word) :
    words (" ".intercalate found) = found ∧ keyword? (" ".intercalate found) = some (" ".intercalate found) := by
  have isWord : ∀ cs ∈ found.map String.toList, IsWord cs := fun cs member => by
    obtain ⟨word, inside, rfl⟩ := List.mem_map.mp member
    exact (each word inside).1
  have chars : splitWords (" ".intercalate found).toList = found.map String.toList := by
    rw [String.toList_intercalate]
    exact splitWords_intercalate isWord
  have split : words (" ".intercalate found) = found := by
    rw [words, chars, List.map_map]
    exact (List.map_congr_left fun word _ => String.ofList_toList).trans (List.map_id found)
  have capital : found.map upper = found :=
    (List.map_congr_left fun word inside => (each word inside).2).trans (List.map_id found)
  refine ⟨split, ?_⟩
  rw [keyword?_of_words (split.symm ▸ present), split, capital]

/-- The words of a normal form are those of its text in upper case. -/
theorem words_keyword {text keyword : String} (normal : keyword? text = some keyword) :
    words keyword = (words text).map upper := by
  obtain ⟨present, joined⟩ := eq_words_of_keyword? normal
  rw [joined]
  exact (keyword?_intercalate (mt List.map_eq_nil_iff.mp present) fun _ => isKeywordWord_upper).1

/-- A text without spaces is what stands after the last space, whatever is before that. -/
theorem afterLastSpace_append {last : String} (noSpace : ∀ c ∈ last.toList, c ≠ ' ') :
    afterLastSpace last = last ∧ ∀ front, afterLastSpace (front ++ " " ++ last) = last := by
  have kept : ∀ rest : List Char, (last.toList.reverse ++ rest).takeWhile (· != ' ') =
      last.toList.reverse ++ rest.takeWhile (· != ' ') := fun rest =>
    List.takeWhile_append_of_pos fun c member => bne_iff_ne.mpr (noSpace c (List.mem_reverse.mp member))
  constructor
  · have whole := kept []
    rw [List.append_nil, List.takeWhile_nil, List.append_nil] at whole
    rw [afterLastSpace, whole, List.reverse_reverse, String.ofList_toList]
  · intro front
    have chars : (front ++ " " ++ last).toList.reverse = last.toList.reverse ++ ' ' :: front.toList.reverse := by
      rw [String.toList_append, String.toList_append, List.reverse_append, List.reverse_append]
      rfl
    rw [afterLastSpace, chars, kept, List.takeWhile_cons_of_neg (by decide), List.append_nil, List.reverse_reverse,
      String.ofList_toList]

/-- What stands after the last space of a normal form is its last word. -/
theorem getLast?_words_keyword {text keyword : String} (normal : keyword? text = some keyword) :
    (words keyword).getLast? = some (afterLastSpace keyword) := by
  obtain ⟨present, joined⟩ := eq_words_of_keyword? normal
  have split := words_keyword normal
  have filled : (words text).map upper ≠ [] := mt List.map_eq_nil_iff.mp present
  obtain ⟨front, last, shape⟩ := (List.eq_nil_or_concat _).resolve_left filled
  rw [List.concat_eq_append] at shape
  have word : IsKeywordWord last := isKeywordWord_upper (shape ▸ List.mem_append_right _ (List.mem_singleton_self _))
  have noSpace : ∀ c ∈ last.toList, c ≠ ' ' := by
    rintro c member rfl
    have filled := word.1.2 _ member
    cases filled
  obtain ⟨alone, after⟩ := afterLastSpace_append noSpace
  rw [split, joined, shape, List.getLast?_concat]
  rcases eq_or_ne front [] with rfl | before
  · rw [List.nil_append, String.intercalate_singleton, alone]
  · rw [String.intercalate_append_of_ne_nil before (List.cons_ne_nil _ _), String.intercalate_singleton, after]

/-- Texts with blanks between them have the normal forms of both with one space between these. A blank text is left
out. -/
theorem keyword?_separated {blanks : String} (present : blanks ≠ "") (blank : hasText blanks = false)
    (text later : String) :
    keyword? (text ++ blanks ++ later) = (keyword? text).merge (· ++ " " ++ ·) (keyword? later) := by
  have split := words_separated present blank text later
  by_cases first : words text = []
  · rw [words_eq_nil_iff.mp first, Option.merge_none_left, keyword?, keyword?, split, first, List.nil_append]
  by_cases second : words later = []
  · rw [words_eq_nil_iff.mp second, Option.merge_none_right, keyword?, keyword?, split, second, List.append_nil]
  · have both : words (text ++ blanks ++ later) ≠ [] := split.symm ▸ List.append_ne_nil_of_left_ne_nil first _
    rw [keyword?_of_words both, keyword?_of_words first, keyword?_of_words second, split, List.map_append,
      String.intercalate_append_of_ne_nil (mt List.map_eq_nil_iff.mp first) (mt List.map_eq_nil_iff.mp second)]
    rfl

end Words

/-- Whether a text consists of words in upper case with one space between them, and of nothing else. -/
structure IsNormalForm (text : String) : Prop extends IsPhrase text where
  blanks : ∀ c ∈ text.toList, isBlank c = true → c = ' '
  capital : upper text = text

section Spaces

variable {cs : List Char}

/-- Where the only blanks are single spaces, after a word comes nothing, or a space and the next word. -/
theorem eq_nil_or_space (blanks : ∀ c ∈ cs, isBlank c = true → c = ' ') (single : IsSingleSpaced cs)
    (ends : ∀ c ∈ cs.getLast?, isBlank c = false) (starts : cs.head?.all isBlank = true) :
    cs = [] ∨ ∃ d later, cs = ' ' :: d :: later ∧ isBlank d = false := by
  cases cs with
  | nil => exact Or.inl rfl
  | cons c cs =>
    have blank : isBlank c = true := starts
    have space : c = ' ' := blanks c List.mem_cons_self blank
    cases cs with
    | nil =>
      rw [ends c rfl] at blank
      cases blank
    | cons d later =>
      have apart : d ≠ ' ' := (List.isChain_cons_cons.mp single).1 space
      have filled : ¬isBlank d = true := mt (blanks d (List.mem_cons_of_mem c List.mem_cons_self)) apart
      exact Or.inr ⟨d, later, by rw [space], Bool.eq_false_iff.mpr filled⟩

/-- A text whose only blanks are single spaces consists of its words with these spaces between them, apart from a space
in front. -/
theorem intercalate_splitWords (blanks : ∀ c ∈ cs, isBlank c = true → c = ' ') (single : IsSingleSpaced cs)
    (ends : ∀ c ∈ cs.getLast?, isBlank c = false) : [' '].intercalate (splitWords cs) = cs.dropWhile isBlank := by
  induction cs using splitWords_induct with
  | nil => rfl
  | blank c cs blank ih =>
    rw [splitWords_blank blank, List.dropWhile_cons_of_pos blank]
    refine ih (List.forall_mem_cons.mp blanks).2 single.tail fun d last => ends d ?_
    rw [List.getLast?_cons, Option.mem_def.mp last]
    rfl
  | word word rest isWord starts ih =>
    have inRest : ∀ c ∈ rest, isBlank c = true → c = ' ' := fun c member => blanks c (List.mem_append_right _ member)
    have spaced : IsSingleSpaced rest := List.IsChain.right_of_append single
    have atEnd : ∀ c ∈ rest.getLast?, isBlank c = false := fun c last => ends c (by
      rw [List.getLast?_append, Option.mem_def.mp last]
      rfl)
    have front : (word ++ rest).dropWhile isBlank = word ++ rest := by
      obtain ⟨c, word, rfl⟩ := List.exists_cons_of_ne_nil isWord.1
      rw [List.cons_append, List.dropWhile_cons_of_neg (by simp [isWord.2 c List.mem_cons_self])]
    have later := ih inRest spaced atEnd
    rw [splitWords_word isWord starts, front]
    rcases eq_nil_or_space inRest spaced atEnd starts with rfl | ⟨d, rest, rfl, filled⟩
    · rw [splitWords, List.intercalate_singleton, List.append_nil]
    · rw [List.dropWhile_cons_of_pos rfl, List.dropWhile_cons_of_neg (by simp [filled])] at later
      have found : splitWords (' ' :: d :: rest) ≠ [] := fun none => by
        rw [none] at later
        cases later
      rw [List.intercalate_cons_of_ne_nil found, later, List.append_assoc, List.singleton_append]

end Spaces

namespace IsNormalForm

theorem keyword {text keyword : String} (normal : keyword? text = some keyword) : IsNormalForm keyword := by
  obtain ⟨-, chars⟩ := keyword?_eq_some_iff.mp normal
  refine ⟨.keyword normal, fun c member blank => ?_, ?_⟩
  · rw [chars] at member
    rcases mem_intercalate member with space | ⟨word, inside, letter⟩
    · exact List.mem_singleton.mp space
    · obtain ⟨source, split, rfl⟩ := List.mem_map.mp inside
      have filled := (isWord_of_mem_splitWords split).upperChars.2 c letter
      rw [blank] at filled
      cases filled
  · rw [← String.toList_inj, toList_upper, chars, upperChars_intercalate, List.map_map]
    exact congrArg _ (List.map_congr_left fun word _ => upperChars_upperChars word)

/-- A text of this form is its own normal form. -/
theorem keyword?_eq {text : String} (form : IsNormalForm text) : keyword? text = some text := by
  obtain ⟨c, cs, shape, filled⟩ := form.token.exists_head
  have joined : [' '].intercalate (splitWords text.toList) = text.toList := by
    rw [intercalate_splitWords form.blanks form.spaces form.token.trimmed.2, shape,
      List.dropWhile_cons_of_neg (by simp [filled])]
  refine keyword?_eq_some_iff.mpr ⟨fun none => ?_, ?_⟩
  · rw [none, shape] at joined
    cases joined
  · rw [← upperChars_intercalate, joined, ← toList_upper, form.capital]

end IsNormalForm

/-- The blank texts are the ones without a normal form. A normal form consists of the words of its text in upper case
with one space between them. It is the normal form of itself, as is every text of this form. Two texts with blanks
between them have the normal forms of both with one space between these, where a blank text has none. -/
theorem keyword?_normalForm (text : String) :
    (keyword? text = none ↔ ∀ c ∈ text.toList, isBlank c = true) ∧
    (∀ keyword, keyword? text = some keyword →
      IsNormalForm keyword ∧ words keyword = (words text).map upper ∧ keyword? keyword = some keyword) ∧
    (IsNormalForm text → keyword? text = some text) ∧
    ∀ blanks later, blanks ≠ "" → (∀ c ∈ blanks.toList, isBlank c = true) →
      keyword? (text ++ blanks ++ later) = (keyword? text).merge (· ++ " " ++ ·) (keyword? later) := by
  refine ⟨keyword?_eq_none_iff, fun keyword normal => ?_, IsNormalForm.keyword?_eq,
    fun blanks later present blank => ?_⟩
  · exact ⟨.keyword normal, words_keyword normal, keyword?_keyword normal⟩
  · have none : hasText blanks = false := keyword?_eq_none_iff_hasText.mp (keyword?_eq_none_iff.mpr blank)
    exact keyword?_separated present none text later

/-- Words with letters whose upper case is longer than they are, between blanks of several kinds. -/
theorem keyword?_paddedWords :
    keyword? "\u00a0straße\t" = some "STRASSE" ∧ IsNormalForm "STRASSE" ∧ keyword? "STRASSE" = some "STRASSE" ∧
      keyword? ("\u00a0straße\t" ++ "\u2003\u0085" ++ "ﬁ\u2028x") = some "STRASSE FI X" := by
  have first : keyword? "\u00a0straße\t" = some "STRASSE" := by decide
  have second : keyword? "ﬁ\u2028x" = some "FI X" := by decide
  obtain ⟨-, normal, -, separated⟩ := keyword?_normalForm "\u00a0straße\t"
  obtain ⟨form, -, -⟩ := normal "STRASSE" first
  refine ⟨first, form, (keyword?_normalForm "STRASSE").2.2.1 form, ?_⟩
  rw [separated "\u2003\u0085" "ﬁ\u2028x" (by decide) (by decide), first, second]
  rfl

end SqlDdl
