import SqlDdl.Number.Basic

/-! The characters of the text of a number, and that there are some. -/

namespace SqlDdl

/-- The characters of which the text of a number consists. -/
def isNumberPart (c : Char) : Bool :=
  c.isDigit || c == '-' || c == '+' || c == '.' || c == 'e'

theorem isNumberPart_digit {n : Nat} {c : Char} (member : c ∈ Nat.toDigits 10 n) :
    isNumberPart c = true := by
  have digit := Nat.isDigit_of_mem_toDigits (by decide) (by decide) member
  simp only [isNumberPart, digit, Bool.true_or]

theorem isNumberPart_zeros {count : Nat} {c : Char} (member : c ∈ List.replicate count '0') :
    isNumberPart c = true := by
  obtain ⟨_, rfl⟩ := List.mem_replicate.mp member
  rfl

theorem Decimal.isNumberPart_text (d : Decimal) : ∀ c ∈ d.text.toList, isNumberPart c = true := by
  intro c member
  have digit : ∀ part ∈ Nat.toDigits 10 d.digits, isNumberPart part = true := fun _ => isNumberPart_digit
  simp only [text, String.toList_ofList] at member
  split at member
  · split at member
    · simp only [List.mem_append, List.mem_cons, List.not_mem_nil, or_false] at member
      rcases member with (inDigits | zeros) | rfl | rfl
      · exact digit c inDigits
      · exact isNumberPart_zeros zeros
      · rfl
      · rfl
    · split at member
      · rcases List.mem_append.mp member with whole | later
        · exact digit c (List.mem_of_mem_take whole)
        · rcases List.mem_cons.mp later with rfl | fraction
          · rfl
          · exact digit c (List.mem_of_mem_drop fraction)
      · simp only [List.mem_cons, List.cons_append, List.mem_append] at member
        rcases member with rfl | rfl | zeros | inDigits
        · rfl
        · rfl
        · exact isNumberPart_zeros zeros
        · exact digit c inDigits
  · simp only [List.mem_append, List.mem_cons] at member
    rcases member with (first | fraction) | rfl | rfl | exponent
    · exact digit c (List.mem_of_mem_take first)
    · split at fraction
      · cases fraction
      · rcases List.mem_cons.mp fraction with rfl | later
        · rfl
        · exact digit c (List.mem_of_mem_drop later)
    · rfl
    · split <;> rfl
    · exact isNumberPart_digit exponent

theorem isNumberPart_sign {negative : Prop} [Decidable negative] {text : String}
    (parts : ∀ c ∈ text.toList, isNumberPart c = true) :
    ∀ c ∈ ((if negative then "-" else "") ++ text).toList, isNumberPart c = true := by
  intro c member
  rw [String.toList_append] at member
  rcases List.mem_append.mp member with sign | later
  · split at sign
    · cases List.mem_singleton.mp sign
      rfl
    · cases sign
  · exact parts c later

theorem Number.isNumberPart_text (value : Number) : ∀ c ∈ value.text.toList, isNumberPart c = true := by
  cases value with
  | integer value =>
    refine isNumberPart_sign fun c member => ?_
    rw [String.toList_ofList] at member
    exact isNumberPart_digit member
  | double value =>
    refine isNumberPart_sign fun c member => ?_
    split at member
    · have zero : ∀ d ∈ "0.0".toList, isNumberPart d = true := List.all_eq_true.mp (by decide)
      exact zero c member
    · exact Decimal.isNumberPart_text _ c member

theorem Decimal.text_ne_empty (d : Decimal) : d.text ≠ "" := by
  intro none
  have chars := congrArg String.toList none
  simp only [text, String.toList_ofList] at chars
  split at chars
  · split at chars
    · simp at chars
    · split at chars <;> simp at chars
  · simp at chars

theorem Number.text_ne_empty (value : Number) : value.text ≠ "" := by
  have digits : ∀ n, String.ofList (Nat.toDigits 10 n) ≠ "" := fun n none =>
    absurd (congrArg String.toList none) (by simp [Nat.toDigits_ne_nil])
  intro none
  cases value with
  | integer value => exact digits _ (String.append_eq_empty_iff.mp none).2
  | double value =>
    have magnitude := (String.append_eq_empty_iff.mp none).2
    split at magnitude
    · exact absurd magnitude (by decide)
    · exact Decimal.text_ne_empty _ magnitude

end SqlDdl
