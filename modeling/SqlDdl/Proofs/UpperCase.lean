import SqlDdl.Proofs.Words

/-! Upper case does not change a text that is in upper case, and it changes neither blanks nor the places
where they are. -/

namespace SqlDdl

/-- Numbers as the bits of a single one, so that two lists are compared in one step. -/
def bits (numbers : List Nat) : Nat :=
  numbers.foldr (fun n set => 1 <<< n ||| set) 0

theorem testBit_bits {numbers : List Nat} {n : Nat} :
    (bits numbers).testBit n = true ↔ n ∈ numbers := by
  induction numbers with
  | nil => simp [bits]
  | cons first later ih =>
    rw [bits, List.foldr_cons, Nat.testBit_or, Bool.or_eq_true, Nat.one_shiftLeft, Nat.testBit_two_pow,
      decide_eq_true_eq, List.mem_cons]
    exact or_congr eq_comm ih

theorem disjoint_of_bits {first second : List Nat} (apart : bits first &&& bits second = 0) {n : Nat}
    (member : n ∈ first) : n ∉ second := by
  intro other
  have both : (bits first &&& bits second).testBit n = true := by
    rw [Nat.testBit_and, testBit_bits.mpr member, testBit_bits.mpr other]
    rfl
  rw [apart, Nat.zero_testBit] at both
  cases both

/-- The distances of the points of a run from its first. -/
def CaseRun.offsets (run : CaseRun) : List Nat :=
  (List.range (run.last - run.first + 1)).filter (· % run.step == 0)

/-- The code points outside ASCII that upper case changes, each with what it brings in. -/
def upperEntries : List (Nat × List Nat) :=
  upperRuns.flatMap (fun run => run.offsets.map fun offset => (run.first + offset, [run.image + offset]))
    ++ upperExpansions

def upperSources : List Nat := upperEntries.map Prod.fst

def upperImages : List Nat := upperEntries.flatMap Prod.snd

/-- The code points of the blanks. -/
def blankPoints : List Nat :=
  [9, 10, 11, 12, 13, 0x20, 0x85, 0xA0, 0x1680, 0x2000, 0x2001, 0x2002, 0x2003, 0x2004, 0x2005, 0x2006,
    0x2007, 0x2008, 0x2009, 0x200A, 0x2028, 0x2029, 0x202F, 0x205F, 0x3000]

theorem mem_blankPoints {c : Char} (blank : isBlank c = true) : c.toNat ∈ blankPoints := by
  simp only [isBlank, Bool.or_eq_true, Bool.and_eq_true, decide_eq_true_eq, beq_iff_eq] at blank
  simp only [blankPoints, List.mem_cons, List.not_mem_nil, or_false]
  omega

/-- A test that no blank passes tells that a character is not a blank. -/
theorem isBlank_eq_false {test : Char → Bool} (blanks : ∀ n ∈ blankPoints, test (Char.ofNat n) = false)
    {c : Char} (passes : test c = true) : isBlank c = false := by
  refine Bool.eq_false_iff.mpr fun blank => ?_
  have fails := blanks c.toNat (mem_blankPoints blank)
  rw [Char.ofNat_toNat, passes] at fails
  cases fails

/-- Upper case brings in nothing that it changes, and blanks are neither changed nor brought in. -/
theorem upperTables_apart : bits upperSources &&& bits upperImages = 0 ∧
    bits blankPoints &&& bits upperSources = 0 ∧ bits blankPoints &&& bits upperImages = 0 := by
  decide +kernel

theorem upperExpansions_ne_nil : (upperExpansions.all fun entry => !entry.2.isEmpty) = true := by decide

theorem CaseRun.mem_offsets {run : CaseRun} {n image : Nat} (found : run.image? n = some image) :
    ∃ offset ∈ run.offsets, n = run.first + offset ∧ image = run.image + offset := by
  simp only [image?] at found
  split at found
  · rename_i inside
    simp only [Bool.and_eq_true, decide_eq_true_eq] at inside
    refine ⟨n - run.first, List.mem_filter.mpr ⟨List.mem_range.mpr ?_, inside.2⟩, ?_,
      (Option.some.inj found).symm⟩
    · omega
    · omega
  · cases found

/-- A character outside ASCII is its own upper case, or it is in the tables. -/
theorem mapCase_cases (c : Char) :
    mapCase upperRuns upperExpansions c = [c] ∨
      ∃ images, (c.toNat, images) ∈ upperEntries ∧ images ≠ [] ∧ (∀ n ∈ images, isCapital n = true) ∧
        mapCase upperRuns upperExpansions c = images.map Char.ofNat := by
  simp only [mapCase]
  split
  · rename_i images found
    obtain ⟨before, after, table, _⟩ := List.lookup_eq_some_iff.mp found
    have entry : (c.toNat, images) ∈ upperExpansions :=
      table ▸ List.mem_append_right _ List.mem_cons_self
    refine Or.inr ⟨images, List.mem_append_right _ entry, ?_, ?_, rfl⟩
    · simpa using List.all_eq_true.mp upperExpansions_ne_nil _ entry
    · exact List.all_eq_true.mp (List.all_eq_true.mp upperExpansions_isCapital _ entry)
  · split
    · rename_i image found
      obtain ⟨run, inside, atRun⟩ := List.exists_of_findSome?_eq_some found
      obtain ⟨offset, listed, source, target⟩ := CaseRun.mem_offsets atRun
      have entry : (c.toNat, [image]) ∈ upperEntries := by
        refine List.mem_append_left _ (List.mem_flatMap.mpr ⟨run, inside, List.mem_map.mpr ?_⟩)
        exact ⟨offset, listed, by rw [source, target]⟩
      have capital := CaseRun.isCapital_image (List.all_eq_true.mp upperRuns_hasCapitals run inside) atRun
      refine Or.inr ⟨[image], entry, List.cons_ne_nil image [], ?_, rfl⟩
      exact fun n member => List.mem_singleton.mp member ▸ capital
    · exact Or.inl rfl

theorem toNat_of_isCapital {n : Nat} (capital : isCapital n = true) : (Char.ofNat n).toNat = n := by
  simp only [isCapital, Bool.and_eq_true, decide_eq_true_eq] at capital
  rw [Char.ofNat, dif_pos capital.1]
  rfl

theorem toUpper_capital : ∀ n : Fin 128, 65 ≤ n.val ∧ n.val ≤ 90 →
    (Char.ofNat n).toUpper = Char.ofNat n := by decide

theorem upperChar_ascii : ∀ n : Fin 128, upperChar (Char.ofNat n) = [Char.ofNat n] ∨
    isBlank (Char.ofNat n) = false ∧ upperChar (Char.ofNat n) ≠ [] ∧
      ∀ d ∈ upperChar (Char.ofNat n), isBlank d = false ∧ upperChar d = [d] := by decide

/-- What upper case brings in is in upper case, since no image of the tables is a source of them. -/
theorem upperChar_of_mem_upperImages {n : Nat} (image : n ∈ upperImages) (capital : isCapital n = true) :
    upperChar (Char.ofNat n) = [Char.ofNat n] := by
  have same := toNat_of_isCapital capital
  rw [upperChar, same]
  split
  · rename_i ascii
    have letter : 65 ≤ n ∧ n ≤ 90 := by
      simp only [isCapital, Bool.and_eq_true, Bool.or_eq_true, decide_eq_true_eq] at capital
      omega
    exact congrArg ([·]) (toUpper_capital ⟨n, ascii⟩ letter)
  · rcases mapCase_cases (Char.ofNat n) with kept | ⟨_, entry, _⟩
    · exact kept
    · rw [same] at entry
      exact absurd image (disjoint_of_bits upperTables_apart.1 (List.mem_map_of_mem entry))

/-- A character is its own upper case, or neither it nor any part of its upper case is a blank, and all of
these parts are their own upper case. -/
theorem upperChar_cases (c : Char) :
    upperChar c = [c] ∨ isBlank c = false ∧ upperChar c ≠ [] ∧
      ∀ d ∈ upperChar c, isBlank d = false ∧ upperChar d = [d] := by
  by_cases ascii : c.toNat < 128
  · exact forall_ascii upperChar_ascii ascii
  · have outside : upperChar c = mapCase upperRuns upperExpansions c := by rw [upperChar, if_neg ascii]
    have filled : ∀ {d : Char} {points : List Nat}, bits blankPoints &&& bits points = 0 →
        d.toNat ∈ points → isBlank d = false := fun apart member =>
      Bool.eq_false_iff.mpr fun blank => disjoint_of_bits apart (mem_blankPoints blank) member
    rw [outside]
    refine (mapCase_cases c).imp_right ?_
    rintro ⟨images, entry, present, capitals, same⟩
    rw [same]
    refine ⟨filled upperTables_apart.2.1 (List.mem_map_of_mem entry),
      fun none => present (List.map_eq_nil_iff.mp none), fun d member => ?_⟩
    obtain ⟨n, inside, rfl⟩ := List.mem_map.mp member
    have image : n ∈ upperImages := List.mem_flatMap.mpr ⟨_, entry, inside⟩
    refine ⟨filled upperTables_apart.2.2 ?_, upperChar_of_mem_upperImages image (capitals n inside)⟩
    rwa [toNat_of_isCapital (capitals n inside)]

theorem upperChar_ne_nil (c : Char) : upperChar c ≠ [] := by
  rcases upperChar_cases c with same | ⟨_, present, _⟩
  · rw [same]
    exact List.cons_ne_nil c []
  · exact present

theorem upperChar_filled {c d : Char} (filled : isBlank c = false) (member : d ∈ upperChar c) :
    isBlank d = false := by
  rcases upperChar_cases c with same | ⟨_, _, each⟩
  · rw [same] at member
    exact List.mem_singleton.mp member ▸ filled
  · exact (each d member).1

theorem upperChars_append (first second : List Char) :
    upperChars (first ++ second) = upperChars first ++ upperChars second :=
  List.flatMap_append

theorem upperChars_fixed {cs : List Char} (each : ∀ c ∈ cs, upperChar c = [c]) : upperChars cs = cs := by
  induction cs with
  | nil => rfl
  | cons c cs ih =>
    obtain ⟨first, later⟩ := List.forall_mem_cons.mp each
    have rest := ih later
    rw [upperChars] at rest ⊢
    rw [List.flatMap_cons, first, rest]
    rfl

/-- Upper case is reached in one step. -/
theorem upperChars_upperChars (cs : List Char) : upperChars (upperChars cs) = upperChars cs := by
  apply upperChars_fixed
  intro d member
  obtain ⟨c, _, image⟩ := List.mem_flatMap.mp member
  rcases upperChar_cases c with same | ⟨_, _, each⟩
  · rw [same] at image
    rw [List.mem_singleton.mp image, same]
  · exact (each d image).2

theorem upper_upper (text : String) : upper (upper text) = upper text := by
  rw [upper, upper, String.toList_ofList, upperChars_upperChars]

theorem upperChars_eq_nil_iff {cs : List Char} : upperChars cs = [] ↔ cs = [] := by
  cases cs with
  | nil => exact Iff.rfl
  | cons c cs => simp [upperChars, upperChar_ne_nil c]

theorem IsWord.upperChars {word : List Char} (isWord : IsWord word) : IsWord (upperChars word) := by
  refine ⟨fun none => isWord.1 (upperChars_eq_nil_iff.mp none), fun d member => ?_⟩
  obtain ⟨c, inside, image⟩ := List.mem_flatMap.mp member
  exact upperChar_filled (isWord.2 c inside) image

theorem IsTrimmed.upperChars {cs : List Char} (trimmed : IsTrimmed cs) : IsTrimmed (upperChars cs) := by
  constructor
  · intro d first
    cases cs with
    | nil => cases first
    | cons c cs =>
      apply upperChar_filled (trimmed.1 c rfl)
      obtain ⟨e, later, image⟩ := List.exists_cons_of_ne_nil (upperChar_ne_nil c)
      rw [SqlDdl.upperChars, List.flatMap_cons, image] at first
      cases Option.mem_some.mp first
      rw [image]
      exact List.mem_cons_self
  · intro d last
    cases ends : cs.getLast? with
    | none =>
      rw [List.getLast?_eq_none_iff.mp ends] at last
      cases last
    | some c =>
      apply upperChar_filled (trimmed.2 c ends)
      obtain ⟨front, rfl⟩ := List.getLast?_eq_some_iff.mp ends
      rw [upperChars_append, List.getLast?_append, SqlDdl.upperChars, List.flatMap_singleton,
        List.getLast?_eq_some_getLast (upperChar_ne_nil c), Option.some_or] at last
      cases Option.mem_some.mp last
      exact List.getLast_mem (upperChar_ne_nil c)

theorem upper_trim_upper (text : String) : upper (trim (upper (trim text))) = upper (trim text) := by
  have trimmed : IsTrimmed (upper (trim text)).toList := by
    rw [upper, String.toList_ofList]
    exact (isTrimmed_trim text).upperChars
  rw [trimmed.trim_eq, upper_upper]

/-- A text is in upper case a single sign only if it is that sign. -/
theorem eq_of_upper_eq_sign {text sign : String} {c : Char} (single : sign.toList = [c])
    (isSign : isSign c = true) (same : upper text = sign) : text = sign := by
  have chars : upperChars text.toList = [c] := by
    rw [← single, ← same, upper, String.toList_ofList]
  apply String.toList_inj.mp
  rw [single]
  cases shape : text.toList with
  | nil =>
    rw [shape] at chars
    cases chars
  | cons d rest =>
    rw [shape, upperChars, List.flatMap_cons] at chars
    rcases List.append_eq_singleton_iff.mp chars with ⟨none, _⟩ | ⟨one, none⟩
    · exact absurd none (upperChar_ne_nil d)
    · have member : c ∈ upperChar d := one ▸ List.mem_singleton_self c
      have own : c = d := (mem_upperChar member).resolve_right (by simp [isSign])
      rw [own, upperChars_eq_nil_iff.mp none]

end SqlDdl
