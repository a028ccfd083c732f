import SqlDdl.Proofs.Upper

/-! How a text is trimmed and split into words. -/

namespace SqlDdl

/-- Whether no blank is at either end. -/
def IsTrimmed (cs : List Char) : Prop :=
  (∀ c ∈ cs.head?, isBlank c = false) ∧ ∀ c ∈ cs.getLast?, isBlank c = false

instance (cs : List Char) : Decidable (IsTrimmed cs) :=
  inferInstanceAs (Decidable (_ ∧ _))

theorem dropWhile_isBlank {blanks cs : List Char} (blank : ∀ c ∈ blanks, isBlank c = true)
    (starts : ∀ c ∈ cs.head?, isBlank c = false) : (blanks ++ cs).dropWhile isBlank = cs := by
  rw [List.dropWhile_append_of_pos blank]
  cases cs with
  | nil => rfl
  | cons c cs => rw [List.dropWhile_cons_of_neg (by simp [starts c rfl])]

/-- Trimming finds the part of a text between the blanks around it. -/
theorem trimChars_eq {before inner after : List Char} (blankBefore : ∀ c ∈ before, isBlank c = true)
    (trimmed : IsTrimmed inner) (blankAfter : ∀ c ∈ after, isBlank c = true) :
    trimChars (before ++ inner ++ after) = inner := by
  have back : ∀ c ∈ after.reverse, isBlank c = true := fun c member =>
    blankAfter c (List.mem_reverse.mp member)
  cases inner with
  | nil =>
    have all : ∀ c ∈ before ++ after, isBlank c = true := fun c member =>
      (List.mem_append.mp member).elim (blankBefore c) (blankAfter c)
    have dropped : (before ++ after ++ []).dropWhile isBlank = [] :=
      dropWhile_isBlank all fun _ none => nomatch none
    rw [List.append_nil] at dropped
    rw [List.append_nil, trimChars, dropped]
    rfl
  | cons c inner =>
    have front : (before ++ (c :: inner) ++ after).dropWhile isBlank = c :: inner ++ after := by
      rw [List.append_assoc]
      exact dropWhile_isBlank blankBefore trimmed.1
    have last : ∀ d ∈ (c :: inner).reverse.head?, isBlank d = false := by
      rw [List.head?_reverse]
      exact trimmed.2
    rw [trimChars, front, List.reverse_append, dropWhile_isBlank back last, List.reverse_reverse]

theorem IsTrimmed.trimChars_eq {cs : List Char} (trimmed : IsTrimmed cs) : trimChars cs = cs := by
  have same : trimChars ([] ++ cs ++ []) = cs :=
    SqlDdl.trimChars_eq (fun _ none => nomatch none) trimmed fun _ none => nomatch none
  rwa [List.append_nil] at same

theorem IsTrimmed.trim_eq {text : String} (trimmed : IsTrimmed text.toList) : trim text = text := by
  rw [trim, trimmed.trimChars_eq, String.ofList_toList]

theorem isBlank_head?_dropWhile {cs : List Char} {c : Char}
    (first : c ∈ (cs.dropWhile isBlank).head?) : isBlank c = false := by
  have kept := List.head?_dropWhile_not isBlank cs
  rw [Option.mem_def.mp first] at kept
  exact kept

theorem isTrimmed_trimChars (cs : List Char) : IsTrimmed (trimChars cs) := by
  constructor
  · intro c first
    -- What is dropped at the end is not the first character of what is left.
    obtain ⟨dropped, split, _⟩ := exists_eq_append_dropWhile isBlank (cs.dropWhile isBlank).reverse
    have whole : cs.dropWhile isBlank = trimChars cs ++ dropped.reverse := by
      have reversed := congrArg List.reverse split
      rwa [List.reverse_reverse, List.reverse_append] at reversed
    apply isBlank_head?_dropWhile
    rw [whole, List.head?_append, Option.mem_def.mp first]
    rfl
  · intro c last
    rw [trimChars, List.getLast?_reverse] at last
    exact isBlank_head?_dropWhile last

theorem isTrimmed_trim (text : String) : IsTrimmed (trim text).toList := by
  rw [trim, String.toList_ofList]
  exact isTrimmed_trimChars _

/-- Whether some characters are a word. -/
def IsWord (cs : List Char) : Prop :=
  cs ≠ [] ∧ ∀ c ∈ cs, isBlank c = false

theorem IsWord.isTrimmed {word : List Char} (isWord : IsWord word) : IsTrimmed word :=
  ⟨fun c first => isWord.2 c (List.mem_of_mem_head? first),
    fun c last => isWord.2 c (List.mem_of_mem_getLast? last)⟩

theorem splitWords_blank {c : Char} (blank : isBlank c = true) (cs : List Char) :
    splitWords (c :: cs) = splitWords cs := by
  rw [splitWords, if_pos blank]

/-- What passes over a word character by character passes over it as a whole, if a blank or the end follows. -/
theorem read_word {γ : Type} (read : List Char → γ) (add : List Char → γ → γ)
    (last : ∀ {c : Char} {cs : List Char}, isBlank c = false → cs.head?.all isBlank = true →
      read (c :: cs) = add [c] (read cs))
    (inner : ∀ {c d : Char} {cs word : List Char} {result : γ}, isBlank c = false → isBlank d = false →
      read (d :: cs) = add word result → read (c :: d :: cs) = add (c :: word) result)
    {word rest : List Char} (isWord : IsWord word) (ends : rest.head?.all isBlank = true) :
    read (word ++ rest) = add word (read rest) := by
  induction word with
  | nil => exact absurd rfl isWord.1
  | cons c word ih =>
    obtain ⟨filled, others⟩ := List.forall_mem_cons.mp isWord.2
    cases word with
    | nil => exact last filled ends
    | cons d word => exact inner filled (others d List.mem_cons_self) (ih ⟨List.cons_ne_nil d word, others⟩)

theorem splitWords_word {word rest : List Char} (isWord : IsWord word)
    (ends : rest.head?.all isBlank = true) : splitWords (word ++ rest) = word :: splitWords rest := by
  refine read_word splitWords List.cons (fun filled ends => ?_) (fun filled next found => ?_) isWord ends
  · rw [splitWords, if_neg (by simp [filled]), if_pos ends]
  · rw [splitWords, if_neg (by simp [filled]), if_neg (by simp [next]), found]

/-- Induction over the words of a text and the blanks before them. -/
@[elab_as_elim]
theorem splitWords_induct {motive : List Char → Prop} (nil : motive [])
    (blank : ∀ c cs, isBlank c = true → motive cs → motive (c :: cs))
    (word : ∀ word rest, IsWord word → rest.head?.all isBlank = true → motive rest →
      motive (word ++ rest)) :
    ∀ cs, motive cs := by
  intro cs
  induction length : cs.length using Nat.strongRecOn generalizing cs with
  | ind n ih =>
    cases cs with
    | nil => exact nil
    | cons c cs =>
      by_cases first : isBlank c = true
      · exact blank c cs first (ih cs.length (by simp [← length]) cs rfl)
      · have filled : (!isBlank c) = true := by simpa using first
        have isWord : IsWord ((c :: cs).takeWhile (!isBlank ·)) := by
          constructor
          · rw [List.takeWhile_cons, if_pos filled]
            exact List.cons_ne_nil c _
          · intro d member
            simpa using List.all_eq_true.mp (List.all_takeWhile ..) d member
        have ends : ((c :: cs).dropWhile (!isBlank ·)).head?.all isBlank = true := by
          have kept := List.head?_dropWhile_not (!isBlank ·) (c :: cs)
          cases found : ((c :: cs).dropWhile (!isBlank ·)).head? with
          | none => rfl
          | some d => simpa [found] using kept
        have shorter : ((c :: cs).dropWhile (!isBlank ·)).length < n := by
          have sum := congrArg List.length
            (List.takeWhile_append_dropWhile (p := (!isBlank ·)) (l := c :: cs))
          have some := List.length_pos_iff.mpr isWord.1
          rw [List.length_append] at sum
          omega
        rw [← List.takeWhile_append_dropWhile (p := (!isBlank ·)) (l := c :: cs)]
        exact word _ _ isWord ends (ih _ shorter _ rfl)

theorem isWord_of_mem_splitWords {cs word : List Char} (member : word ∈ splitWords cs) : IsWord word := by
  induction cs using splitWords_induct with
  | nil => cases member
  | blank c cs blank ih =>
    rw [splitWords_blank blank] at member
    exact ih member
  | word first rest isWord ends ih =>
    rw [splitWords_word isWord ends] at member
    rcases List.mem_cons.mp member with rfl | later
    · exact isWord
    · exact ih later

theorem splitWords_eq_nil_iff {cs : List Char} :
    splitWords cs = [] ↔ ∀ c ∈ cs, isBlank c = true := by
  induction cs using splitWords_induct with
  | nil => simp [splitWords]
  | blank c cs blank ih => rw [splitWords_blank blank, ih, List.forall_mem_cons, and_iff_right blank]
  | word first rest isWord ends ih =>
    rw [splitWords_word isWord ends]
    constructor
    · intro none
      cases none
    · intro blank
      obtain ⟨c, member⟩ := List.exists_mem_of_ne_nil _ isWord.1
      have filled := isWord.2 c member
      rw [blank c (List.mem_append_left _ member)] at filled
      cases filled

/-- Words with single spaces between them are split into the same words. -/
theorem splitWords_intercalate {words : List (List Char)} (each : ∀ word ∈ words, IsWord word) :
    splitWords ([' '].intercalate words) = words := by
  induction words with
  | nil => rfl
  | cons first later ih =>
    obtain ⟨isWord, rest⟩ := List.forall_mem_cons.mp each
    cases later with
    | nil =>
      have alone : splitWords (first ++ []) = first :: splitWords [] := splitWords_word isWord rfl
      rw [List.append_nil] at alone
      rw [List.intercalate_singleton]
      exact alone
    | cons next later =>
      rw [List.intercalate_cons_cons, List.append_assoc, splitWords_word isWord rfl,
        List.singleton_append, splitWords_blank rfl, ih rest]

theorem splitWords_blanks {blanks : List Char} (blank : ∀ c ∈ blanks, isBlank c = true)
    (cs : List Char) : splitWords (blanks ++ cs) = splitWords cs := by
  induction blanks with
  | nil => rfl
  | cons c blanks ih =>
    obtain ⟨first, later⟩ := List.forall_mem_cons.mp blank
    rw [List.cons_append, splitWords_blank first, ih later]

/-- A text consists of a single word exactly if trimming leaves that word. -/
theorem splitWords_eq_singleton_iff {cs word : List Char} :
    splitWords cs = [word] ↔ IsWord word ∧ trimChars cs = word := by
  constructor
  · intro single
    have isWord := isWord_of_mem_splitWords (single ▸ List.mem_singleton_self word)
    refine ⟨isWord, ?_⟩
    suffices around : ∃ before after, cs = before ++ word ++ after ∧
        (∀ c ∈ before, isBlank c = true) ∧ ∀ c ∈ after, isBlank c = true by
      obtain ⟨before, after, rfl, blankBefore, blankAfter⟩ := around
      exact trimChars_eq blankBefore isWord.isTrimmed blankAfter
    induction cs using splitWords_induct with
    | nil => cases single
    | blank c cs blank ih =>
      rw [splitWords_blank blank] at single
      obtain ⟨before, after, rfl, blankBefore, rest⟩ := ih single
      exact ⟨c :: before, after, rfl, List.forall_mem_cons.mpr ⟨blank, blankBefore⟩, rest⟩
    | word first rest isFirst ends ih =>
      rw [splitWords_word isFirst ends] at single
      obtain ⟨rfl, none⟩ := List.cons.inj single
      exact ⟨[], rest, rfl, (fun _ member => nomatch member), splitWords_eq_nil_iff.mp none⟩
  · rintro ⟨isWord, rfl⟩
    obtain ⟨before, after, same, blankBefore, blankAfter⟩ := exists_eq_append_trim (String.ofList cs)
    rw [trim, String.toList_ofList, String.toList_ofList] at same
    have ends : after.head?.all isBlank = true := by
      cases after with
      | nil => rfl
      | cons c after => exact blankAfter c List.mem_cons_self
    calc splitWords cs
        = splitWords (before ++ (trimChars cs ++ after)) := by rw [← List.append_assoc, ← same]
      _ = splitWords (trimChars cs ++ after) := splitWords_blanks blankBefore _
      _ = trimChars cs :: splitWords after := splitWords_word isWord ends
      _ = [trimChars cs] := by rw [splitWords_eq_nil_iff.mpr blankAfter]

end SqlDdl
