import SqlDdl.Keyword

/-! Which characters a text can have after it was trimmed, split into words or changed to upper case. -/

namespace SqlDdl

/-- A statement on the characters of a list is decided by looking at them, and not at all characters. -/
instance (priority := 2000) decidableForallMemChars (property : Char → Prop) [DecidablePred property]
    (cs : List Char) : Decidable (∀ c ∈ cs, property c) :=
  List.decidableBAll property cs

instance (priority := 2000) decidableForallMemChar? (property : Char → Prop) [DecidablePred property]
    (found : Option Char) : Decidable (∀ c ∈ found, property c) :=
  Option.decidableForallMem found

/-- An ASCII character that is not a capital letter. Upper case brings in none of them. -/
def isSign (c : Char) : Bool :=
  c.toNat < 128 && !(65 ≤ c.toNat && c.toNat ≤ 90)

/-- Whether a number is the code point of a character that is not a sign. -/
def isCapital (n : Nat) : Bool :=
  decide n.isValidChar && (128 ≤ n || (65 ≤ n && n ≤ 90))

/-- Whether every image of a run is a capital. An image in ASCII is the only one of its run. -/
def CaseRun.hasCapitals (run : CaseRun) : Bool :=
  (128 ≤ run.image || (run.first == run.last && 65 ≤ run.image && run.image ≤ 90)) &&
    (run.image + (run.last - run.first) < 0xD800 ||
      (0xE000 ≤ run.image && run.image + (run.last - run.first) < 0x110000))

theorem upperRuns_hasCapitals : upperRuns.all CaseRun.hasCapitals = true := by decide

theorem upperExpansions_isCapital :
    (upperExpansions.all fun entry => entry.2.all isCapital) = true := by decide

theorem isSign_ofNat {n : Nat} (capital : isCapital n = true) : isSign (Char.ofNat n) = false := by
  simp only [isCapital, Bool.and_eq_true, Bool.or_eq_true, decide_eq_true_eq] at capital
  obtain ⟨valid, place⟩ := capital
  have same : (Char.ofNat n).toNat = n := by
    rw [Char.ofNat, dif_pos valid]
    rfl
  simp only [isSign, same, Bool.and_eq_false_iff, decide_eq_false_iff_not, Bool.not_eq_false',
    Bool.and_eq_true, decide_eq_true_eq]
  omega

theorem CaseRun.isCapital_image {run : CaseRun} {n image : Nat} (capitals : run.hasCapitals = true)
    (found : run.image? n = some image) : isCapital image = true := by
  simp only [image?] at found
  split at found
  · rename_i inside
    cases Option.some.inj found
    simp only [hasCapitals, isCapital, Nat.isValidChar, Bool.and_eq_true, Bool.or_eq_true, beq_iff_eq,
      decide_eq_true_eq] at capitals inside ⊢
    omega
  · cases found

/-- A law of the ASCII characters holds if it does for each of their numbers. -/
@[elab_as_elim]
theorem forall_ascii {motive : Char → Prop} (each : ∀ n : Fin 128, motive (Char.ofNat n)) {c : Char}
    (ascii : c.toNat < 128) : motive c := by
  have found := each ⟨c.toNat, ascii⟩
  rwa [Char.ofNat_toNat] at found

theorem toNat_lt_of_isAlpha {c : Char} (alpha : c.isAlpha = true) : c.toNat < 128 := by
  rcases Bool.or_eq_true_iff.mp alpha with capital | small
  · have range : c.val ≥ 'A'.val ∧ c.val ≤ 'Z'.val := of_decide_eq_true capital
    exact Nat.lt_of_le_of_lt (UInt32.le_iff_toNat_le.mp range.2) (by decide)
  · have below : c.val ≤ 'z'.val := of_decide_eq_true (Bool.and_eq_true_iff.mp small).2
    exact Nat.lt_of_le_of_lt (UInt32.le_iff_toNat_le.mp below) (by decide)

/-- The letter case of ASCII leaves all other characters alone. -/
theorem toLower_of_not_ascii {c : Char} (outside : ¬c.toNat < 128) : c.toLower = c := by
  delta Char.toLower
  rw [dif_neg]
  rintro ⟨_, below⟩
  exact outside (Nat.lt_of_le_of_lt (UInt32.le_iff_toNat_le.mp below) (by decide))

theorem toUpper_of_not_ascii {c : Char} (outside : ¬c.toNat < 128) : c.toUpper = c := by
  delta Char.toUpper
  rw [dif_neg]
  rintro ⟨_, below⟩
  exact outside (Nat.lt_of_le_of_lt (UInt32.le_iff_toNat_le.mp below) (by decide))

theorem toUpper_ascii : ∀ n : Fin 128,
    (Char.ofNat n).toUpper = Char.ofNat n ∨ isSign (Char.ofNat n).toUpper = false := by decide

/-- The upper case of a character is made of capitals, unless it is the character itself. -/
theorem mem_upperChar {c d : Char} (member : d ∈ upperChar c) : d = c ∨ isSign d = false := by
  simp only [upperChar] at member
  split at member
  · rename_i ascii
    cases List.mem_singleton.mp member
    exact forall_ascii toUpper_ascii ascii
  · simp only [mapCase] at member
    split at member
    · rename_i images found
      obtain ⟨n, inside, rfl⟩ := List.mem_map.mp member
      obtain ⟨before, after, table, _⟩ := List.lookup_eq_some_iff.mp found
      have entry : (c.toNat, images) ∈ upperExpansions :=
        table ▸ List.mem_append_right _ List.mem_cons_self
      have capitals := List.all_eq_true.mp upperExpansions_isCapital _ entry
      exact Or.inr (isSign_ofNat (List.all_eq_true.mp capitals n inside))
    · split at member
      · rename_i image found
        obtain ⟨run, inside, atRun⟩ := List.exists_of_findSome?_eq_some found
        cases List.mem_singleton.mp member
        have capitals := List.all_eq_true.mp upperRuns_hasCapitals run inside
        exact Or.inr (isSign_ofNat (CaseRun.isCapital_image capitals atRun))
      · exact Or.inl (List.mem_singleton.mp member)

theorem sign_mem_of_mem_upper {text : String} {c : Char} (sign : isSign c = true)
    (member : c ∈ (upper text).toList) : c ∈ text.toList := by
  simp only [upper, String.toList_ofList, upperChars, List.mem_flatMap] at member
  obtain ⟨source, inside, image⟩ := member
  rcases mem_upperChar image with same | capital
  · exact same ▸ inside
  · rw [capital] at sign
    cases sign

theorem mem_of_mem_splitWords {cs word : List Char} {c : Char} (found : word ∈ splitWords cs)
    (member : c ∈ word) : c ∈ cs := by
  induction cs generalizing word with
  | nil => cases found
  | cons first cs ih =>
    simp only [splitWords] at found
    split at found
    · exact List.mem_cons_of_mem _ (ih found member)
    · split at found
      · rcases List.mem_cons.mp found with rfl | later
        · exact List.mem_singleton.mp member ▸ List.mem_cons_self
        · exact List.mem_cons_of_mem _ (ih later member)
      · split at found
        · cases List.mem_singleton.mp found
          exact List.mem_singleton.mp member ▸ List.mem_cons_self
        · rename_i head later split
          rcases List.mem_cons.mp found with rfl | after
          · rcases List.mem_cons.mp member with rfl | inside
            · exact List.mem_cons_self
            · exact List.mem_cons_of_mem _ (ih (split ▸ List.mem_cons_self) inside)
          · exact List.mem_cons_of_mem _ (ih (split ▸ List.mem_cons_of_mem _ after) member)

theorem mem_intercalate {separator : List Char} {parts : List (List Char)} {c : Char}
    (member : c ∈ separator.intercalate parts) : c ∈ separator ∨ ∃ part ∈ parts, c ∈ part := by
  induction parts with
  | nil => simp at member
  | cons part parts ih =>
    cases parts with
    | nil => exact Or.inr ⟨part, List.mem_cons_self, by simpa using member⟩
    | cons next later =>
      rw [List.intercalate_cons_cons, List.append_assoc, List.mem_append, List.mem_append] at member
      rcases member with first | between | rest
      · exact Or.inr ⟨part, List.mem_cons_self, first⟩
      · exact Or.inl between
      · rcases ih rest with between | ⟨other, inside, found⟩
        · exact Or.inl between
        · exact Or.inr ⟨other, List.mem_cons_of_mem _ inside, found⟩

/-- The signs of a keyword in its normal form are signs of its text or spaces. -/
theorem sign_mem_of_mem_keyword? {text keyword : String} {c : Char} (normal : keyword? text = some keyword)
    (sign : isSign c = true) (member : c ∈ keyword.toList) : c = ' ' ∨ c ∈ text.toList := by
  simp only [keyword?] at normal
  split at normal
  · cases normal
  · cases Option.some.inj normal
    have joined := sign_mem_of_mem_upper sign member
    rw [String.toList_intercalate] at joined
    rcases mem_intercalate joined with space | ⟨word, inside, found⟩
    · exact Or.inl (List.mem_singleton.mp space)
    · obtain ⟨text', words, rfl⟩ := List.mem_map.mp inside
      simp only [SqlDdl.words, List.mem_map] at words
      obtain ⟨cs, split, rfl⟩ := words
      rw [String.toList_ofList] at found
      exact Or.inr (mem_of_mem_splitWords split found)

theorem exists_eq_append_dropWhile (p : Char → Bool) (cs : List Char) :
    ∃ dropped, cs = dropped ++ cs.dropWhile p ∧ ∀ c ∈ dropped, p c = true :=
  ⟨cs.takeWhile p, List.takeWhile_append_dropWhile.symm,
    fun _ member => List.all_eq_true.mp (List.all_takeWhile ..) _ member⟩

/-- Trimming drops blanks before and after the rest of a text. -/
theorem exists_eq_append_trim (text : String) :
    ∃ before after, text.toList = before ++ (trim text).toList ++ after ∧
      (∀ c ∈ before, isBlank c = true) ∧ ∀ c ∈ after, isBlank c = true := by
  obtain ⟨before, splitBefore, blankBefore⟩ := exists_eq_append_dropWhile isBlank text.toList
  obtain ⟨after, splitAfter, blankAfter⟩ :=
    exists_eq_append_dropWhile isBlank (text.toList.dropWhile isBlank).reverse
  refine ⟨before, after.reverse, ?_, blankBefore, fun c member =>
    blankAfter c (List.mem_reverse.mp member)⟩
  have rest := congrArg List.reverse splitAfter
  rw [List.reverse_reverse, List.reverse_append] at rest
  simp only [trim, trimChars, String.toList_ofList]
  rw [List.append_assoc, ← rest]
  exact splitBefore

theorem mem_of_mem_trim {text : String} {c : Char} (member : c ∈ (trim text).toList) :
    c ∈ text.toList := by
  obtain ⟨before, after, same, _, _⟩ := exists_eq_append_trim text
  rw [same]
  exact List.mem_append_left _ (List.mem_append_right _ member)

/-- Whether no character of a list is in a text. -/
def Without (marks : List Char) (text : String) : Prop :=
  ∀ c ∈ text.toList, c ∉ marks

instance (marks : List Char) (text : String) : Decidable (Without marks text) :=
  List.decidableBAll (· ∉ marks) text.toList

namespace Without

variable {marks : List Char} {text : String}

theorem append {other : String} (first : Without marks text) (second : Without marks other) :
    Without marks (text ++ other) := by
  intro c member
  rw [String.toList_append] at member
  rcases List.mem_append.mp member with inFirst | inSecond
  · exact first c inFirst
  · exact second c inSecond

theorem trim (clean : Without marks text) : Without marks (SqlDdl.trim text) :=
  fun c member => clean c (mem_of_mem_trim member)

theorem upper (clean : Without marks text) (signs : ∀ c ∈ marks, isSign c = true) :
    Without marks (SqlDdl.upper text) :=
  fun c member marked => clean c (sign_mem_of_mem_upper (signs c marked) member) marked

theorem keyword? {keyword : String} (clean : Without marks text)
    (normal : SqlDdl.keyword? text = some keyword) (signs : ∀ c ∈ marks, isSign c = true)
    (space : ' ' ∉ marks) : Without marks keyword := by
  intro c member marked
  rcases sign_mem_of_mem_keyword? normal (signs c marked) member with rfl | inside
  · exact space marked
  · exact clean c inside marked

end Without

end SqlDdl
