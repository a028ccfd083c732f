import Mathlib.Data.List.Chain
import SqlDdl.Proofs.Layout
import SqlDdl.Proofs.Names
import SqlDdl.Proofs.NumberText

/-! Where spaces are in a text. -/

namespace SqlDdl

/-- The signs before which there is no space. -/
def closers : List Char := [',', ')']

/-- Whether no space is before another one. -/
def IsSingleSpaced (cs : List Char) : Prop :=
  cs.IsChain fun c d => c = ' ' → d ≠ ' '

instance (cs : List Char) : Decidable (IsSingleSpaced cs) :=
  inferInstanceAs (Decidable (cs.IsChain fun c d => c = ' ' → d ≠ ' '))

/-- Whether no space is before another one, a comma or a closing parenthesis. -/
def NoStraySpace (cs : List Char) : Prop :=
  cs.IsChain fun c d => c = ' ' → d ∉ ' ' :: closers

instance (cs : List Char) : Decidable (NoStraySpace cs) :=
  inferInstanceAs (Decidable (cs.IsChain fun c d => c = ' ' → d ∉ ' ' :: closers))

/-- Whether no blank is at an end of a text and no stray space in it. -/
structure IsTidy (text : String) : Prop where
  ends : IsTrimmed text.toList
  spaces : NoStraySpace text.toList

/-- Whether a text is tidy whatever is around it, unless it is empty. -/
structure IsCompact (text : String) : Prop where
  ends : IsTrimmed text.toList
  spaces : IsSingleSpaced text.toList
  clean : Without closers text

instance (text : String) : Decidable (IsCompact text) :=
  decidable_of_iff (IsTrimmed text.toList ∧ IsSingleSpaced text.toList ∧ Without closers text)
    ⟨fun ⟨ends, spaces, clean⟩ => ⟨ends, spaces, clean⟩, fun ⟨ends, spaces, clean⟩ => ⟨ends, spaces, clean⟩⟩

/-- Whether a text is tidy and can stand after a space. -/
structure IsNeat (text : String) : Prop where
  starts : ∃ c, text.toList.head? = some c ∧ isBlank c = false ∧ c ∉ closers
  ends : ∀ c ∈ text.toList.getLast?, isBlank c = false
  spaces : NoStraySpace text.toList

theorem ne_space {c : Char} (filled : isBlank c = false) : c ≠ ' ' := by
  rintro rfl
  cases filled

theorem isChain_of_forall_mem {property : Char → Prop} {relation : Char → Char → Prop} {cs : List Char}
    (each : ∀ c ∈ cs, property c) (related : ∀ c d, property c → relation c d) : cs.IsChain relation := by
  have free : cs.IsChain fun _ _ => True := (List.pairwise_of_forall fun _ _ => trivial).isChain
  exact free.imp_of_mem_imp fun c d member _ _ => related c d (each c member)

/-- A chain stays one if each character is kept or becomes other ones that are related to all characters. -/
theorem isChain_flatMap {relation : Char → Char → Prop} {marks cs : List Char} {image : Char → List Char}
    (chain : cs.IsChain relation) (free : ∀ c d, c ∉ marks ∨ d ∉ marks → relation c d)
    (either : ∀ c, image c = [c] ∨ image c ≠ [] ∧ ∀ d ∈ image c, d ∉ marks) :
    (cs.flatMap image).IsChain relation := by
  have source : ∀ c, ∀ d ∈ image c, d ∈ marks → d = c := fun c d member marked => by
    rcases either c with same | ⟨_, others⟩
    · exact List.mem_singleton.mp (same ▸ member)
    · exact absurd marked (others d member)
  have present : [] ∉ cs.map image := fun member => by
    obtain ⟨c, _, none⟩ := List.mem_map.mp member
    rcases either c with same | ⟨some, _⟩
    · simp [same] at none
    · exact some none
  rw [List.flatMap_def, List.isChain_flatten present, List.isChain_map]
  constructor
  · rintro _ member
    obtain ⟨c, _, rfl⟩ := List.mem_map.mp member
    rcases either c with same | ⟨_, others⟩
    · rw [same]
      exact List.isChain_singleton c
    · exact isChain_of_forall_mem others fun d e other => free d e (Or.inl other)
  · refine chain.imp fun c d related x last y first => ?_
    have inLeft := List.mem_of_mem_getLast? last
    have inRight := List.mem_of_mem_head? first
    by_cases marked : x ∈ marks ∧ y ∈ marks
    · rw [source c x inLeft marked.1, source d y inRight marked.2]
      exact related
    · exact free x y (not_and_or.mp marked)

namespace IsSingleSpaced

variable {cs : List Char}

/-- Single spaces stay single if every character is kept or becomes other ones that are no spaces. -/
theorem flatMap {image : Char → List Char} (single : IsSingleSpaced cs)
    (either : ∀ c, image c = [c] ∨ image c ≠ [] ∧ ∀ d ∈ image c, d ≠ ' ') :
    IsSingleSpaced (cs.flatMap image) := by
  have noSpace : ∀ {c : Char}, c ∉ [' '] ↔ c ≠ ' ' := List.mem_singleton.not
  have free : ∀ c d, c ∉ [' '] ∨ d ∉ [' '] → c = ' ' → d ≠ ' ' := by
    intro c d other space next
    rw [noSpace, noSpace] at other
    exact other.elim (absurd space) (absurd next)
  exact isChain_flatMap single free fun c => by simpa only [noSpace] using either c

theorem upperChars (single : IsSingleSpaced cs) : IsSingleSpaced (upperChars cs) := by
  refine single.flatMap fun c => (upperChar_cases c).imp_right ?_
  rintro ⟨_, present, images⟩
  exact ⟨present, fun d member => ne_space (images d member).1⟩

theorem doubleChars {quote : Char} (other : quote ≠ ' ') (single : IsSingleSpaced cs) :
    IsSingleSpaced (doubleChars quote cs) := by
  refine single.flatMap fun c => ?_
  by_cases same : c = quote
  · rw [if_pos same]
    refine Or.inr ⟨List.cons_ne_nil c [c], fun d member => ?_⟩
    have copy : d = c := by simpa using member
    exact copy ▸ same ▸ other
  · exact Or.inl (if_neg same)

theorem noStraySpace (single : IsSingleSpaced cs) (clean : ∀ c ∈ cs, c ∉ closers) : NoStraySpace cs := by
  refine single.imp_of_mem_imp fun c d _ member apart space stray => ?_
  rcases List.mem_cons.mp stray with other | closer
  · exact apart space other
  · exact clean d member closer

end IsSingleSpaced

namespace IsNeat

variable {first second text : String}

theorem isTidy (neat : IsNeat text) : IsTidy text := by
  obtain ⟨c, starts, filled, _⟩ := neat.starts
  refine ⟨⟨fun d head => ?_, neat.ends⟩, neat.spaces⟩
  rw [starts] at head
  exact Option.mem_some.mp head ▸ filled

theorem hasText (neat : IsNeat text) : hasText text = true := by
  obtain ⟨c, starts, filled, _⟩ := neat.starts
  exact List.any_eq_true.mpr ⟨c, List.mem_of_mem_head? starts, by simp [filled]⟩

theorem getLast? (neat : IsNeat text) : ∃ c, text.toList.getLast? = some c ∧ isBlank c = false := by
  obtain ⟨c, starts, _⟩ := neat.starts
  have last := List.getLast?_eq_some_getLast (List.ne_nil_of_mem (List.mem_of_mem_head? starts))
  exact ⟨_, last, neat.ends _ last⟩

theorem head?_append (neat : IsNeat first) :
    ∃ c, (first ++ second).toList.head? = some c ∧ isBlank c = false ∧ c ∉ closers := by
  obtain ⟨c, starts, outside⟩ := neat.starts
  refine ⟨c, ?_, outside⟩
  rw [String.toList_append, List.head?_append, starts, Option.some_or]

/-- What is between two neat texts may have spaces at its ends. -/
theorem between {middle : String} (before : IsNeat first) (spaces : NoStraySpace middle.toList)
    (after : IsNeat second) : IsNeat (first ++ middle ++ second) := by
  obtain ⟨d, next, filled, other⟩ := after.starts
  obtain ⟨e, last, filled'⟩ := after.getLast?
  have later : NoStraySpace (middle.toList ++ second.toList) := by
    refine spaces.append after.spaces fun x _ y head _ stray => ?_
    rw [next] at head
    cases Option.mem_some.mp head
    rcases List.mem_cons.mp stray with space | closer
    · exact ne_space filled space
    · exact other closer
  have all : NoStraySpace (first.toList ++ (middle.toList ++ second.toList)) :=
    before.spaces.append later fun x final _ _ space => absurd space (ne_space (before.ends x final))
  rw [String.append_assoc]
  refine ⟨before.head?_append, fun x final => ?_, ?_⟩
  · rw [← String.append_assoc, String.toList_append, List.getLast?_append, last, Option.some_or] at final
    exact Option.mem_some.mp final ▸ filled'
  · rwa [String.toList_append, String.toList_append]

theorem append (before : IsNeat first) (after : IsNeat second) : IsNeat (first ++ second) := by
  have joined : IsNeat (first ++ "" ++ second) := before.between List.isChain_nil after
  rwa [String.append_empty] at joined

theorem spaced (before : IsNeat first) (after : IsNeat second) : IsNeat (first ++ " " ++ second) :=
  before.between (List.isChain_singleton ' ') after

theorem prepend (before : OrEmpty IsNeat first) (after : IsNeat second) : IsNeat (first ++ second) := by
  rcases before with rfl | neat
  · rwa [String.empty_append]
  · exact neat.append after

theorem extend (before : IsNeat first) (after : OrEmpty IsNeat second) : IsNeat (first ++ second) := by
  rcases after with rfl | neat
  · rwa [String.append_empty]
  · exact before.append neat

/-- A closing parenthesis may follow, since no space is at the end. -/
theorem closed (neat : IsNeat text) : IsNeat (text ++ ")") := by
  refine ⟨neat.head?_append, fun x last => ?_, ?_⟩
  · rw [String.toList_append, List.getLast?_append] at last
    exact Option.mem_some.mp last ▸ rfl
  · rw [String.toList_append]
    exact neat.spaces.append (List.isChain_singleton ')') fun x last _ _ space =>
      absurd space (ne_space (neat.ends x last))

theorem singleton {c : Char} (filled : isBlank c = false ∧ c ∉ closers) : IsNeat (String.singleton c) := by
  have chars : (String.singleton c).toList = [c] := String.toList_singleton c
  refine ⟨⟨c, by rw [chars]; rfl, filled⟩, fun d last => ?_, ?_⟩
  · rw [chars] at last
    exact Option.mem_some.mp last ▸ filled.1
  · rw [chars]
    exact List.isChain_singleton c

end IsNeat

namespace IsCompact

variable {text : String}

theorem isNeat (compact : IsCompact text) (present : text ≠ "") : IsNeat text := by
  refine ⟨?_, compact.ends.2, compact.spaces.noStraySpace compact.clean⟩
  cases shape : text.toList with
  | nil => exact absurd (String.toList_eq_nil_iff.mp shape) present
  | cons c cs =>
    refine ⟨c, rfl, compact.ends.1 c (by rw [shape]; rfl), compact.clean c ?_⟩
    rw [shape]
    exact List.mem_cons_self

theorem orEmpty (compact : IsCompact text) : OrEmpty IsNeat text := by
  by_cases none : text = ""
  · exact Or.inl none
  · exact Or.inr (compact.isNeat none)

theorem upper (compact : IsCompact text) : IsCompact (upper text) := by
  have chars : (SqlDdl.upper text).toList = upperChars text.toList := String.toList_ofList
  refine ⟨?_, ?_, compact.clean.upper (by decide)⟩
  · rw [chars]
    exact compact.ends.upperChars
  · rw [chars]
    exact compact.spaces.upperChars

/-- A text without blanks and closers. -/
theorem ofFilled (each : ∀ c ∈ text.toList, isBlank c = false ∧ c ∉ closers) : IsCompact text where
  ends := ⟨fun c first => (each c (List.mem_of_mem_head? first)).1,
    fun c last => (each c (List.mem_of_mem_getLast? last)).1⟩
  spaces := isChain_of_forall_mem each fun _ _ filled space => absurd space (ne_space filled.1)
  clean := fun c member => (each c member).2

end IsCompact

theorem upper_ne_empty {text : String} (present : text ≠ "") : upper text ≠ "" := by
  intro none
  have chars : upperChars text.toList = [] := by
    rw [← String.toList_ofList (l := upperChars text.toList)]
    exact congrArg String.toList none
  exact present (String.toList_eq_nil_iff.mp (upperChars_eq_nil_iff.mp chars))

/-- A quoted token. -/
theorem isNeat_enclose {opening closing : Char} {value : String}
    (opens : isBlank opening = false ∧ opening ∉ closers)
    (closes : isBlank closing = false ∧ closing ∉ closers) (spaces : IsSingleSpaced value.toList)
    (clean : Without closers value) : IsNeat (enclose opening closing value) := by
  have doubled : ∀ c ∈ doubleChars closing value.toList, c ∉ closers := fun c member => by
    obtain ⟨source, inside, copy⟩ := List.mem_flatMap.mp member
    have same : c = source := by
      split at copy <;> simpa using copy
    exact clean c (same ▸ inside)
  have inner : NoStraySpace (String.ofList (doubleChars closing value.toList)).toList := by
    rw [String.toList_ofList]
    exact (spaces.doubleChars (ne_space closes.1)).noStraySpace doubled
  have parts : enclose opening closing value = String.singleton opening ++
      String.ofList (doubleChars closing value.toList) ++ String.singleton closing := by
    apply String.toList_inj.mp
    simp [enclose]
  rw [parts]
  exact (IsNeat.singleton opens).between inner (IsNeat.singleton closes)

theorem filled_of_part {part : Char → Bool} (blanks : ∀ n ∈ blankPoints, part (Char.ofNat n) = false)
    (others : ∀ c ∈ closers, part c = false) {c : Char} (inside : part c = true) :
    isBlank c = false ∧ c ∉ closers := by
  refine ⟨isBlank_eq_false blanks inside, fun closer => ?_⟩
  rw [others c closer] at inside
  cases inside

theorem isCompact_of_parts {part : Char → Bool} (blanks : ∀ n ∈ blankPoints, part (Char.ofNat n) = false)
    (others : ∀ c ∈ closers, part c = false) {text : String} (inside : ∀ c ∈ text.toList, part c = true) :
    IsCompact text :=
  .ofFilled fun c member => filled_of_part blanks others (inside c member)

theorem Number.isNeat_text (value : Number) : IsNeat value.text :=
  (isCompact_of_parts (by decide) (by decide) value.isNumberPart_text).isNeat value.text_ne_empty

theorem isNeat_nat (value : Nat) : IsNeat (toString value) := by
  have chars : (toString value).toList = Nat.toDigits 10 value := by
    rw [Nat.toString_eq_ofList_toDigits, String.toList_ofList]
  have parts : ∀ c ∈ (toString value).toList, isNumberPart c = true := fun c member =>
    isNumberPart_digit (chars ▸ member)
  refine (isCompact_of_parts (by decide) (by decide) parts).isNeat fun none => ?_
  rw [none] at chars
  exact Nat.toDigits_ne_nil chars.symm

theorem isNeat_plain {name : String} (plain : isPlain name.toList = true) : IsNeat name := by
  refine (isCompact_of_parts (by decide) (by decide) (isPlainPart_of_mem plain)).isNeat ?_
  rintro rfl
  cases plain

/-- A keyword in its normal form has no stray space in it, whatever blanks are in its text. -/
theorem isNeat_keyword {text keyword : String} (clean : Without closers text)
    (normal : keyword? text = some keyword) : IsNeat keyword := by
  refine holds_keyword IsNeat.spaced (fun cs split => ?_) normal
  have isWord := isWord_of_mem_splitWords split
  have compact : IsCompact (String.ofList cs) := .ofFilled fun c letter => by
    rw [String.toList_ofList] at letter
    exact ⟨isWord.2 c letter, clean c (mem_of_mem_splitWords split letter)⟩
  refine compact.upper.isNeat (upper_ne_empty fun none => isWord.1 ?_)
  rw [← String.toList_ofList (l := cs), none]
  rfl

end SqlDdl
