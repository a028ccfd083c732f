import SqlDdl.Proofs.Spacing

/-! The blanks between the words of a text. Together with the words they make up the text, and upper case keeps
them, so that two texts with the same words differ in upper case only by their blanks. -/

namespace SqlDdl

/-- The blanks of a text in order, with `none` in place of every word. -/
def gaps : List Char → List (Option Char)
  | [] => []
  | c :: cs =>
    if isBlank c then some c :: gaps cs
    else if cs.head?.all isBlank then none :: gaps cs
    else gaps cs

/-- Puts words into the places that gaps leave for them. -/
def fillGaps : List (Option Char) → List (List Char) → List Char
  | [], _ => []
  | some c :: gaps, words => c :: fillGaps gaps words
  | none :: gaps, word :: words => word ++ fillGaps gaps words
  | none :: gaps, [] => fillGaps gaps []

theorem gaps_blank {c : Char} (blank : isBlank c = true) (cs : List Char) :
    gaps (c :: cs) = some c :: gaps cs := by
  rw [gaps, if_pos blank]

theorem gaps_word {word rest : List Char} (isWord : IsWord word) (ends : rest.head?.all isBlank = true) :
    gaps (word ++ rest) = none :: gaps rest := by
  refine read_word gaps (fun _ => List.cons none) (fun filled ends => ?_) (fun filled next found => ?_) isWord ends
  · rw [gaps, if_neg (by simp [filled]), if_pos ends]
  · rw [gaps, if_neg (by simp [filled]), if_neg (by simp [next]), found]

/-- A text is its words in its gaps. -/
theorem fillGaps_gaps (cs : List Char) : fillGaps (gaps cs) (splitWords cs) = cs := by
  induction cs using splitWords_induct with
  | nil => rfl
  | blank c cs blank ih => rw [gaps_blank blank, splitWords_blank blank, fillGaps, ih]
  | word word rest isWord ends ih => rw [gaps_word isWord ends, splitWords_word isWord ends, fillGaps, ih]

section Upper

theorem upperChar_blank {c : Char} (blank : isBlank c = true) : upperChar c = [c] := by
  rcases upperChar_cases c with same | ⟨filled, _⟩
  · exact same
  · rw [blank] at filled
    cases filled

/-- What begins with a blank in upper case does so before. -/
theorem isBlank_head?_upperChars {cs : List Char} (starts : cs.head?.all isBlank = true) :
    (upperChars cs).head?.all isBlank = true := by
  cases cs with
  | nil => rfl
  | cons c cs =>
    rw [upperChars, List.flatMap_cons, upperChar_blank starts]
    exact starts

/-- Upper case makes a change to the words of a text only. -/
theorem gaps_upperChars (cs : List Char) :
    gaps (upperChars cs) = gaps cs ∧ splitWords (upperChars cs) = (splitWords cs).map upperChars := by
  induction cs using splitWords_induct with
  | nil => exact ⟨rfl, rfl⟩
  | blank c cs blank ih =>
    have next : upperChars (c :: cs) = c :: upperChars cs := by
      rw [upperChars, List.flatMap_cons, upperChar_blank blank]
      rfl
    rw [next, gaps_blank blank, gaps_blank blank, splitWords_blank blank, splitWords_blank blank, ih.1, ih.2]
    exact ⟨rfl, rfl⟩
  | word word rest isWord ends ih =>
    have starts := isBlank_head?_upperChars ends
    rw [upperChars_append, gaps_word isWord.upperChars starts, gaps_word isWord ends,
      splitWords_word isWord.upperChars starts, splitWords_word isWord ends, ih.1, ih.2]
    exact ⟨rfl, rfl⟩

variable {first second : String}

theorem toList_upper (text : String) : (upper text).toList = upperChars text.toList :=
  String.toList_ofList

/-- Texts with the same normal form have the same words in upper case. -/
theorem upperWords_eq (same : keyword? first = keyword? second) :
    (splitWords first.toList).map upperChars = (splitWords second.toList).map upperChars := by
  cases normal : keyword? second with
  | none =>
    rw [normal] at same
    rw [splitWords_eq_nil_iff.mpr (keyword?_eq_none_iff.mp same),
      splitWords_eq_nil_iff.mpr (keyword?_eq_none_iff.mp normal)]
  | some keyword =>
    rw [normal] at same
    rw [← splitWords_keyword same, splitWords_keyword normal]

/-- Of texts with the same normal form those with the same blanks are the same in upper case. -/
theorem upper_eq_iff_gaps (same : keyword? first = keyword? second) :
    upper first = upper second ↔ gaps first.toList = gaps second.toList := by
  rw [← String.toList_inj, toList_upper, toList_upper]
  constructor
  · intro equal
    rw [← (gaps_upperChars first.toList).1, equal, (gaps_upperChars second.toList).1]
  · intro equal
    rw [← fillGaps_gaps (upperChars first.toList), ← fillGaps_gaps (upperChars second.toList),
      (gaps_upperChars first.toList).1, (gaps_upperChars second.toList).1,
      (gaps_upperChars first.toList).2, (gaps_upperChars second.toList).2, equal, upperWords_eq same]

end Upper

section Trim

theorem splitWords_append_blanks {blanks : List Char} (blank : ∀ c ∈ blanks, isBlank c = true)
    (cs : List Char) : splitWords (cs ++ blanks) = splitWords cs := by
  induction cs using splitWords_induct with
  | nil => exact splitWords_eq_nil_iff.mpr blank
  | blank c cs isBlank ih => rw [List.cons_append, splitWords_blank isBlank, splitWords_blank isBlank, ih]
  | word word rest isWord ends ih =>
    have starts : (rest ++ blanks).head?.all isBlank = true := by
      cases rest with
      | nil =>
        cases blanks with
        | nil => rfl
        | cons c blanks => exact blank c List.mem_cons_self
      | cons c rest => exact ends
    rw [List.append_assoc, splitWords_word isWord starts, splitWords_word isWord ends, ih]

theorem splitWords_trim (text : String) : splitWords (trim text).toList = splitWords text.toList := by
  obtain ⟨before, after, same, blankBefore, blankAfter⟩ := exists_eq_append_trim text
  rw [same, splitWords_append_blanks blankAfter, splitWords_blanks blankBefore]

theorem keyword?_congr {first second : String} (same : splitWords first.toList = splitWords second.toList) :
    keyword? first = keyword? second := by
  rw [keyword?, keyword?, words, words, same]

/-- The blanks at the ends of a keyword make no difference to its normal form. -/
theorem keyword?_trim (text : String) : keyword? (trim text) = keyword? text :=
  keyword?_congr (splitWords_trim text)

end Trim

end SqlDdl
