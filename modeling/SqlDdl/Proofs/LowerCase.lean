import Mathlib.Data.List.Basic
import SqlDdl.Proofs.KeywordForm

/-! Which texts have a given lower case. A word of small letters, none of them a `k`, is the lower case of
itself in other letter cases of ASCII and of no other text; a `k` is that of the kelvin sign, too. -/

namespace SqlDdl

/-- A small letter that is the lower case of no character outside ASCII. -/
def isOwnLower (c : Char) : Bool :=
  97 ≤ c.toNat && c.toNat ≤ 122 && c.toNat != 107

/-- Whether no image of a run is such a letter. -/
def CaseRun.avoidsOwnLower (run : CaseRun) : Bool :=
  128 ≤ run.image || (run.first == run.last && run.image == 107)

theorem lowerRuns_avoidsOwnLower : lowerRuns.all CaseRun.avoidsOwnLower = true := by decide

theorem lowerExpansions_foreign :
    (lowerExpansions.all fun entry => entry.2.any fun n => !isOwnLower (Char.ofNat n)) = true := by decide

theorem of_isOwnLower_ofNat {n : Nat} (letter : isOwnLower (Char.ofNat n) = true) :
    97 ≤ n ∧ n ≤ 122 ∧ n ≠ 107 := by
  simp only [isOwnLower, Bool.and_eq_true, decide_eq_true_eq, bne_iff_ne] at letter
  by_cases valid : n.isValidChar
  · have same : (Char.ofNat n).toNat = n := by
      rw [Char.ofNat, dif_pos valid]
      rfl
    omega
  · have null : (Char.ofNat n).toNat = 0 := by
      rw [Char.ofNat, dif_neg valid]
      rfl
    omega

theorem CaseRun.isOwnLower_image {run : CaseRun} {n image : Nat} (avoids : run.avoidsOwnLower = true)
    (found : run.image? n = some image) : isOwnLower (Char.ofNat image) = false := by
  refine Bool.eq_false_iff.mpr fun letter => ?_
  have place := of_isOwnLower_ofNat letter
  simp only [image?] at found
  split at found
  · rename_i inside
    cases Option.some.inj found
    simp only [avoidsOwnLower, Bool.and_eq_true, Bool.or_eq_true, beq_iff_eq, decide_eq_true_eq]
      at avoids inside
    omega
  · cases found

/-- A character whose lower case consists of these letters is in ASCII. -/
theorem ascii_of_lowerChar {c : Char} (letters : ∀ d ∈ lowerChar c, isOwnLower d = true) :
    c.toNat < 128 := by
  refine Classical.byContradiction fun outside => ?_
  simp only [lowerChar, if_neg outside, mapCase] at letters
  split at letters
  · rename_i images found
    obtain ⟨before, after, table, _⟩ := List.lookup_eq_some_iff.mp found
    have entry : (c.toNat, images) ∈ lowerExpansions :=
      table ▸ List.mem_append_right _ List.mem_cons_self
    obtain ⟨n, inside, foreign⟩ := List.any_eq_true.mp (List.all_eq_true.mp lowerExpansions_foreign _ entry)
    rw [letters _ (List.mem_map_of_mem inside)] at foreign
    cases foreign
  · split at letters
    · rename_i image found
      obtain ⟨run, inside, atRun⟩ := List.exists_of_findSome?_eq_some found
      have foreign := CaseRun.isOwnLower_image (List.all_eq_true.mp lowerRuns_avoidsOwnLower run inside) atRun
      rw [letters _ (List.mem_singleton_self _)] at foreign
      cases foreign
    · have letter := letters c (List.mem_singleton_self c)
      simp only [isOwnLower, Bool.and_eq_true, decide_eq_true_eq] at letter
      omega

/-- A text whose lower case consists of these letters is in ASCII, and each of its characters has a lower
case of its own. -/
theorem lowerCharsAfter_eq {passed cs : List Char}
    (letters : ∀ d ∈ lowerCharsAfter passed cs, isOwnLower d = true) :
    lowerCharsAfter passed cs = cs.map Char.toLower ∧ ∀ c ∈ cs, c.toNat < 128 := by
  induction cs generalizing passed with
  | nil => exact ⟨rfl, fun _ member => nomatch member⟩
  | cons c cs ih =>
    simp only [lowerCharsAfter, List.forall_mem_append] at letters
    obtain ⟨first, later⟩ := letters
    obtain ⟨rest, ascii⟩ := ih later
    by_cases sigma : c = 'Σ'
    · -- Neither of its small forms is a letter of ASCII.
      rw [if_pos sigma] at first
      split at first
      · exact absurd (first _ (List.mem_singleton_self _)) (by decide)
      · exact absurd (first _ (List.mem_singleton_self _)) (by decide)
    · rw [if_neg sigma] at first
      have small := ascii_of_lowerChar first
      have own : lowerChar c = [c.toLower] := by rw [lowerChar, if_pos small]
      refine ⟨?_, List.forall_mem_cons.mpr ⟨small, ascii⟩⟩
      rw [lowerCharsAfter, if_neg sigma, own, rest]
      rfl

theorem upperChar_of_isOwnLower : ∀ n : Fin 128, isOwnLower (Char.ofNat n).toLower = true →
    isBlank (Char.ofNat n) = false ∧
      upperChar (Char.ofNat n) = upperChar (Char.ofNat n).toLower := by decide

/-- A text whose lower case is a word of these letters is that word in other letter cases, with blanks around
it. As a keyword it has the normal form of the word. -/
theorem keyword?_of_lower {text word : String} (same : lower (trim text) = word) (present : word ≠ "")
    (letters : ∀ d ∈ word.toList, isOwnLower d = true) :
    keyword? text = some (upper word) ∧ (trim text).toList.map Char.toLower = word.toList := by
  have chars : lowerCharsAfter [] (trim text).toList = word.toList := by
    rw [← same, lower, String.toList_ofList]
  obtain ⟨own, ascii⟩ := lowerCharsAfter_eq (chars.symm ▸ letters)
  have lowered : (trim text).toList.map Char.toLower = word.toList := own.symm.trans chars
  have each : ∀ c ∈ (trim text).toList, isBlank c = false ∧ upperChar c = upperChar c.toLower := by
    intro c member
    have letter : isOwnLower c.toLower = true := letters _ (lowered ▸ List.mem_map_of_mem member)
    exact forall_ascii upperChar_of_isOwnLower (ascii c member) letter
  refine ⟨?_, lowered⟩
  have isWord : IsWord (trim text).toList := by
    refine ⟨fun none => present (String.toList_eq_nil_iff.mp ?_), fun c member => (each c member).1⟩
    rw [← lowered, none]
    rfl
  have capitals : upperChars (trim text).toList = upperChars word.toList := by
    rw [← lowered, upperChars, upperChars, List.flatMap_map]
    exact List.flatMap_congr fun c member => (each c member).2
  have single : splitWords text.toList = [(trim text).toList] :=
    splitWords_eq_singleton_iff.mpr ⟨isWord, by rw [trim, String.toList_ofList]⟩
  refine keyword?_eq_some_iff.mpr ⟨by rw [single]; exact List.cons_ne_nil _ _, ?_⟩
  rw [single, List.map_singleton, List.intercalate_singleton, capitals, upper, String.toList_ofList]

/-- The other way round the texts differ: the dotless `ı` has the upper case of an `i`, and is a small letter
itself. -/
example : keyword? "trıgger" = some "TRIGGER" ∧ lower (trim "trıgger") ≠ "trigger" := by decide +kernel

end SqlDdl
