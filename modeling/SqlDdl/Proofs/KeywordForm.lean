import SqlDdl.Proofs.UpperCase

/-! The normal form of keywords: its words, and that it is the normal form of itself. -/

namespace SqlDdl

theorem upperChars_intercalate (words : List (List Char)) :
    upperChars ([' '].intercalate words) = [' '].intercalate (words.map upperChars) := by
  induction words with
  | nil => rfl
  | cons first later ih =>
    cases later with
    | nil => simp only [List.map_cons, List.map_nil, List.intercalate_singleton]
    | cons next later =>
      rw [List.intercalate_cons_cons, List.map_cons, List.map_cons, List.intercalate_cons_cons,
        upperChars_append, upperChars_append, ih]
      rfl

theorem keyword?_eq_none_iff {text : String} :
    keyword? text = none ↔ ∀ c ∈ text.toList, isBlank c = true := by
  rw [← splitWords_eq_nil_iff, keyword?]
  split
  · rename_i none
    exact iff_of_true rfl (List.map_eq_nil_iff.mp none)
  · rename_i present
    exact iff_of_false (Option.some_ne_none _) fun none => present (by rw [words, none]; rfl)

/-- The texts that are not blank are the ones with a normal form. -/
theorem isSome_keyword? (text : String) : (keyword? text).isSome = hasText text := by
  cases normal : keyword? text with
  | none =>
    have blank := keyword?_eq_none_iff.mp normal
    refine (List.any_eq_false.mpr fun c member => ?_).symm
    rw [blank c member]
    exact Bool.false_ne_true
  | some keyword =>
    cases filled : hasText text with
    | true => rfl
    | false =>
      have blank : ∀ c ∈ text.toList, isBlank c = true := fun c member => by
        simpa using List.any_eq_false.mp filled c member
      rw [keyword?_eq_none_iff.mpr blank] at normal
      cases normal

theorem exists_keyword?_iff {text : String} :
    (∃ keyword, keyword? text = some keyword) ↔ hasText text = true := by
  rw [← isSome_keyword?, Option.isSome_iff_exists]

theorem keyword?_eq_none_iff_hasText {text : String} : keyword? text = none ↔ hasText text = false := by
  rw [← isSome_keyword?, Option.isSome_eq_false_iff, Option.isNone_iff_eq_none]

/-- The normal form of a keyword consists of its words in upper case. -/
theorem keyword?_eq_some_iff {text keyword : String} :
    keyword? text = some keyword ↔
      splitWords text.toList ≠ [] ∧
        keyword.toList = [' '].intercalate ((splitWords text.toList).map upperChars) := by
  have joined : (upper (" ".intercalate (words text))).toList =
      [' '].intercalate ((splitWords text.toList).map upperChars) := by
    have chars : (words text).map String.toList = splitWords text.toList := by
      simp only [words, List.map_map, Function.comp_def, String.toList_ofList, List.map_id']
    rw [upper, String.toList_ofList, String.toList_intercalate, chars]
    exact upperChars_intercalate _
  rw [← joined, keyword?]
  split
  · rename_i none
    exact iff_of_false (Option.some_ne_none _).symm fun present =>
      present.1 (List.map_eq_nil_iff.mp none)
  · rename_i present
    have filled : splitWords text.toList ≠ [] := fun none => present (by rw [words, none]; rfl)
    rw [and_iff_right filled, Option.some.injEq, String.toList_inj]
    exact eq_comm

theorem eq_words_of_keyword? {text keyword : String} (normal : keyword? text = some keyword) :
    words text ≠ [] ∧ keyword = " ".intercalate ((words text).map upper) := by
  obtain ⟨filled, chars⟩ := keyword?_eq_some_iff.mp normal
  refine ⟨fun none => filled (List.map_eq_nil_iff.mp none), String.toList_inj.mp ?_⟩
  simp only [chars, words, upper, String.toList_intercalate, List.map_map, Function.comp_def,
    String.toList_ofList]
  rfl

theorem splitWords_keyword {text keyword : String} (normal : keyword? text = some keyword) :
    splitWords keyword.toList = (splitWords text.toList).map upperChars := by
  rw [(keyword?_eq_some_iff.mp normal).2]
  apply splitWords_intercalate
  intro word member
  obtain ⟨source, inside, rfl⟩ := List.mem_map.mp member
  exact (isWord_of_mem_splitWords inside).upperChars

/-- A normal form is the normal form of itself. -/
theorem keyword?_keyword {text keyword : String} (normal : keyword? text = some keyword) :
    keyword? keyword = some keyword := by
  have same := splitWords_keyword normal
  obtain ⟨filled, chars⟩ := keyword?_eq_some_iff.mp normal
  refine keyword?_eq_some_iff.mpr ⟨?_, ?_⟩
  · rw [same]
    exact fun none => filled (List.map_eq_nil_iff.mp none)
  · rw [same, chars, List.map_map]
    exact congrArg _ (List.map_congr_left fun word _ => (upperChars_upperChars word).symm)

/-- A text and its normal form, or the empty text where it has none, have the same normal form. -/
theorem keyword?_getD (text : String) : keyword? ((keyword? text).getD "") = keyword? text := by
  cases normal : keyword? text with
  | none => rfl
  | some keyword => exact keyword?_keyword normal

end SqlDdl
