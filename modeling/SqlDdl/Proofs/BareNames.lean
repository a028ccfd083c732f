import Mathlib.Data.List.Basic
import Mathlib.Data.List.Forall2
import SqlDdl.Proofs.NameReader

/-! The names that need no quotes. They consist of ASCII characters, so that the letter case of ASCII alone tells
which of them are reserved words. -/

namespace SqlDdl

/-- Whether some characters are a run of ASCII letters, digits, `_` and `$` that begins with neither a digit nor a
`$`. -/
structure IsBare (cs : List Char) : Prop where
  present : cs ≠ []
  each : ∀ c ∈ cs, c.isAlphanum = true ∨ c = '_' ∨ c = '$'
  starts : ∀ c ∈ cs.head?, c.isDigit = false ∧ c ≠ '$'

section Characters

variable {c : Char}

theorem isPlainStart_eq (c : Char) : isPlainStart c = (c.isAlpha || c == '_') := by
  have capital : c.isUpper = ('A' ≤ c && c ≤ 'Z') := Bool.decide_and _ _
  have small : c.isLower = ('a' ≤ c && c ≤ 'z') := rfl
  have letter : c.isAlpha = (c.isUpper || c.isLower) := rfl
  rw [letter, capital, small]
  rfl

theorem isPlainPart_iff : isPlainPart c = true ↔ c.isAlphanum = true ∨ c = '_' ∨ c = '$' := by
  have same : isPlainPart c = (c.isAlphanum || c == '_' || c == '$') := by
    rw [isPlainPart, isPlainStart_eq]
    exact congrArg (· || c == '$') (Bool.or_right_comm c.isAlpha (c == '_') c.isDigit)
  simp only [same, Bool.or_eq_true, beq_iff_eq, or_assoc]

/-- The characters of plain names at which none begins are the digits and `$`. -/
theorem isPlainStart_iff (part : isPlainPart c = true) : isPlainStart c = true ↔ c.isDigit = false ∧ c ≠ '$' := by
  constructor
  · intro start
    refine ⟨not_isDigit_of_isPlainStart start, ?_⟩
    rintro rfl
    cases start
  · rintro ⟨digit, dollar⟩
    have other : ('0' ≤ c && c ≤ '9') = false := digit
    rw [isPlainPart, other, Bool.or_false, Bool.or_eq_true, beq_iff_eq] at part
    exact part.resolve_right dollar

theorem ascii_of_isPlainPart (part : isPlainPart c = true) : c.toNat < 128 := by
  rcases isPlainPart_iff.mp part with alphanum | rfl | rfl
  · rcases Bool.or_eq_true_iff.mp alphanum with letter | digit
    · exact toNat_lt_of_isAlpha letter
    · exact Nat.lt_of_le_of_lt (Char.isDigit_iff_toNat.mp digit).2 (by decide)
  · decide
  · decide

/-- The plain names are the bare ones. -/
theorem isPlain_iff {cs : List Char} : isPlain cs = true ↔ IsBare cs := by
  cases cs with
  | nil => exact iff_of_false Bool.false_ne_true fun bare => bare.present rfl
  | cons c cs =>
    constructor
    · intro plain
      have parts := isPlainPart_of_mem plain
      have start : isPlainStart c = true := (Bool.and_eq_true_iff.mp plain).1
      refine ⟨List.cons_ne_nil c cs, fun d member => isPlainPart_iff.mp (parts d member), fun d first => ?_⟩
      cases Option.mem_some.mp first
      exact (isPlainStart_iff (parts c List.mem_cons_self)).mp start
    · intro bare
      have parts : ∀ d ∈ c :: cs, isPlainPart d = true := fun d member => isPlainPart_iff.mpr (bare.each d member)
      have start : isPlainStart c = true := (isPlainStart_iff (parts c List.mem_cons_self)).mpr (bare.starts c rfl)
      have later : cs.all isPlainPart = true :=
        List.all_eq_true.mpr fun d member => parts d (List.mem_cons_of_mem c member)
      exact Bool.and_eq_true_iff.mpr ⟨start, later⟩

end Characters

section LetterCase

variable {text : String}

theorem toList_toUpper (text : String) : text.toUpper.toList = text.toList.map Char.toUpper :=
  String.toList_map

theorem plain_toUpper_ascii : ∀ n : Fin 128,
    isPlainStart (Char.ofNat n).toUpper = isPlainStart (Char.ofNat n) ∧
      isPlainPart (Char.ofNat n).toUpper = isPlainPart (Char.ofNat n) := by decide

theorem plain_toUpper (c : Char) :
    isPlainStart c.toUpper = isPlainStart c ∧ isPlainPart c.toUpper = isPlainPart c := by
  by_cases ascii : c.toNat < 128
  · exact forall_ascii plain_toUpper_ascii ascii
  · rw [toUpper_of_not_ascii ascii]
    exact ⟨rfl, rfl⟩

theorem toUpper_letterCase_ascii : ∀ n : Fin 128,
    (Char.ofNat n).toUpper.toUpper = (Char.ofNat n).toUpper ∧
      (Char.ofNat n).toLower.toUpper = (Char.ofNat n).toUpper := by decide

/-- A character has the upper case that it has in either case. -/
theorem toUpper_letterCase (c : Char) : c.toUpper.toUpper = c.toUpper ∧ c.toLower.toUpper = c.toUpper := by
  by_cases ascii : c.toNat < 128
  · exact forall_ascii toUpper_letterCase_ascii ascii
  · rw [toUpper_of_not_ascii ascii, toLower_of_not_ascii ascii]
    exact ⟨toUpper_of_not_ascii ascii, toUpper_of_not_ascii ascii⟩

theorem isPlain_toUpper (text : String) : isPlain text.toUpper.toList = isPlain text.toList := by
  rw [toList_toUpper]
  cases text.toList with
  | nil => rfl
  | cons c cs =>
    rw [List.map_cons, isPlain, isPlain, (plain_toUpper c).1, List.all_map]
    exact congrArg (isPlainStart c && ·) (List.all_congr rfl fun d => (plain_toUpper d).2)

/-- In a text of ASCII characters upper case changes ASCII letters only. -/
theorem upper_eq_toUpper (ascii : ∀ c ∈ text.toList, c.toNat < 128) : upper text = text.toUpper := by
  rw [← String.toList_inj, toList_toUpper, upper, String.toList_ofList, List.map_eq_flatMap]
  exact List.flatMap_congr fun c member => if_pos (ascii c member)

/-- Whether a text is a reserved word, in any case of its ASCII letters. -/
def isReservedAscii (text : String) : Bool :=
  reservedWords.contains text.toUpper

/-- Whether an identifier must be quoted, given a test that tells the reserved words. -/
def needsQuotingBy (reserved : String → Bool) (name : String) : Bool :=
  !isPlain name.toList || reserved name

/-- The identifier as a configuration writes it, given a test that tells the reserved words. -/
def Config.quoteBy (reserved : String → Bool) (config : Config) (name : String) : String :=
  match config.quoting with
  | .always => wrapIdentifier config.dialect name
  | .never => name
  | .asNeeded => if needsQuotingBy reserved name then wrapIdentifier config.dialect name else name

/-- A configuration writes names alike as long as they need quotes alike. -/
theorem Config.quoteBy_eq {reserved : String → Bool} {name : String}
    (same : needsQuotingBy reserved name = needsQuoting name) (config : Config) :
    config.quoteBy reserved name = config.quote name := by
  obtain ⟨dialect, quoting⟩ := config
  cases quoting with
  | always => rfl
  | never => rfl
  | asNeeded => rw [quoteBy, same, quote, quotes]

theorem isReserved_eq_ascii (ascii : ∀ c ∈ text.toList, c.toNat < 128) :
    isReserved text = isReservedAscii text := by
  rw [isReserved, isReservedAscii, upper_eq_toUpper ascii]

/-- For a plain name it makes no difference in which letter case it is compared with the reserved words, and any other
name needs quotes anyway. -/
theorem needsQuotingBy_isReservedAscii (name : String) :
    needsQuotingBy isReservedAscii name = needsQuoting name := by
  rw [needsQuotingBy, needsQuoting]
  cases plain : isPlain name.toList with
  | false => rfl
  | true =>
    have ascii : ∀ c ∈ name.toList, c.toNat < 128 := fun c member =>
      ascii_of_isPlainPart (isPlainPart_of_mem plain c member)
    rw [isReserved_eq_ascii ascii]

/-- Whether a name arises from another one by a change to the case of ASCII letters. -/
def SameLetters (first second : String) : Prop :=
  List.Forall₂ (fun c d => d = c ∨ d = c.toUpper ∨ d = c.toLower) first.toList second.toList

instance decidableSameLetters (first second : String) : Decidable (SameLetters first second) :=
  inferInstanceAs (Decidable (List.Forall₂ _ _ _))

theorem SameLetters.toUpper_eq {first second : String} (same : SameLetters first second) :
    first.toUpper = second.toUpper := by
  have letters : List.Forall₂ (fun c d => c.toUpper = d.toUpper) first.toList second.toList := by
    refine List.Forall₂.imp (fun c d letter => ?_) same
    rcases letter with rfl | rfl | rfl
    · rfl
    · exact (toUpper_letterCase c).1.symm
    · exact (toUpper_letterCase c).2.symm
  rw [← String.toList_inj, toList_toUpper, toList_toUpper, ← List.forall₂_eq_eq_eq, List.forall₂_map_left_iff,
    List.forall₂_map_right_iff]
  exact letters

/-- The dotless `ı` is an `I` in upper case, but no letter of ASCII. -/
theorem isReserved_foreign : isReserved "ın" = true ∧ isReservedAscii "ın" = false := by
  have capitals : "ın".toUpper = "ıN" := by
    rw [← String.toList_inj, toList_toUpper]
    rfl
  rw [isReservedAscii, capitals]
  decide

end LetterCase

/-- The names that need no quotes are the bare ones that are no reserved words in any case of ASCII letters. A change to
that case makes no difference. Some texts with other letters are reserved words in upper case, too. If these were not
taken as reserved, the same names would need quotes, and every configuration would write all of them alike. -/
theorem needsQuoting_bare (name : String) :
    (needsQuoting name = false ↔ IsBare name.toList ∧ name.toUpper ∉ reservedWords) ∧
    (∀ other, SameLetters name other → needsQuoting other = needsQuoting name) ∧
    (needsQuotingBy isReserved name = needsQuoting name ∧ needsQuotingBy isReservedAscii name = needsQuoting name) ∧
    (∀ config : Config, config.quoteBy isReserved name = config.quote name ∧
      config.quoteBy isReservedAscii name = config.quote name) ∧
    ∃ foreign, isReserved foreign = true ∧ isReservedAscii foreign = false ∧ ∃ c ∈ foreign.toList, 128 ≤ c.toNat := by
  have same := needsQuotingBy_isReservedAscii
  refine ⟨?bare, fun other letters => ?letters, ⟨rfl, same name⟩,
    fun config => ⟨config.quoteBy_eq rfl, config.quoteBy_eq (same name)⟩,
    "ın", isReserved_foreign.1, isReserved_foreign.2, 'ı', by decide, by decide⟩
  case bare =>
    rw [← same, needsQuotingBy, Bool.or_eq_false_iff, Bool.not_eq_false', isPlain_iff, isReservedAscii,
      List.contains_eq_mem, decide_eq_false_iff_not]
  case letters =>
    rw [← same, ← same, needsQuotingBy, needsQuotingBy, isReservedAscii, isReservedAscii, ← isPlain_toUpper name,
      ← isPlain_toUpper other, letters.toUpper_eq]

/-- A reserved word stays one in other letters, and a name with a dollar sign inside stays bare. -/
theorem needsQuoting_mixedCase :
    SameLetters "Select" "sELECT" ∧ needsQuoting "sELECT" = needsQuoting "Select" ∧ needsQuoting "Select" = true ∧
      SameLetters "Price$1" "PRICE$1" ∧ needsQuoting "PRICE$1" = needsQuoting "Price$1" ∧
      needsQuoting "Price$1" = false := by
  have reserved : SameLetters "Select" "sELECT" := by decide
  have plain : SameLetters "Price$1" "PRICE$1" := by decide
  exact ⟨reserved, (needsQuoting_bare "Select").2.1 "sELECT" reserved, by decide,
    plain, (needsQuoting_bare "Price$1").2.1 "PRICE$1" plain, by decide⟩

/-- A line break at the end belongs to a name. -/
example : needsQuoting "users" = false ∧ needsQuoting "users\n" = true := by decide

end SqlDdl
