import SqlDdl.Proofs.Names
import SqlDdl.Proofs.NumberText
import SqlDdl.Proofs.Texts

/-! Characters that are in a piece of SQL only if a text of the statement brings them in. -/

namespace SqlDdl

/-- A sign that is in no plain name and no number, and not between words. -/
def isForeign (c : Char) : Bool :=
  isSign c && !isPlainPart c && !isNumberPart c && c != ' '

/-- Whether all of some characters are foreign. -/
def Foreign (marks : List Char) : Prop :=
  ∀ c ∈ marks, isForeign c = true

instance (marks : List Char) : Decidable (Foreign marks) :=
  List.decidableBAll (isForeign · = true) marks

/-- A plain name has no character that cannot be in one. -/
theorem without_of_isPlain {marks : List Char} (outside : ∀ c ∈ marks, isPlainPart c = false)
    {name : String} (plain : isPlain name.toList = true) : Without marks name := by
  intro c member marked
  have part := isPlainPart_of_mem plain c member
  rw [outside c marked] at part
  cases part

/-- The keyword of a marker has no sign that neither its text nor the keyword of a set flag has. -/
theorem Without.marker {marks : List Char} {marker : Marker} {canonical keyword : String}
    (clean : ∀ text, marker = .text text → Without marks text) (own : Without marks canonical)
    (normal : marker.keyword? canonical = some keyword) (signs : ∀ c ∈ marks, isSign c = true)
    (space : ' ' ∉ marks) : Without marks keyword := by
  cases marker with
  | flag isSet =>
    cases isSet with
    | true => exact Option.some.inj normal ▸ own
    | false => cases normal
  | text text => exact (clean text rfl).keyword? normal signs space

namespace Foreign

variable {marks : List Char}

theorem spread (foreign : Foreign marks) {c : Char} (member : c ∈ marks) :
    ((isSign c = true ∧ isPlainPart c = false) ∧ isNumberPart c = false) ∧ c ≠ ' ' := by
  simpa only [isForeign, Bool.and_eq_true, Bool.not_eq_true', bne_iff_ne] using foreign c member

theorem signs (foreign : Foreign marks) : ∀ c ∈ marks, isSign c = true :=
  fun _ member => (foreign.spread member).1.1.1

theorem space (foreign : Foreign marks) : ' ' ∉ marks :=
  fun member => (foreign.spread member).2 rfl

theorem blank (foreign : Foreign marks) : Without marks " " := by
  intro c member
  rw [List.mem_singleton.mp member]
  exact foreign.space

theorem plain (foreign : Foreign marks) {name : String} (plain : isPlain name.toList = true) :
    Without marks name :=
  without_of_isPlain (fun _ marked => (foreign.spread marked).1.1.2) plain

theorem ofNumberParts (foreign : Foreign marks) {text : String}
    (parts : ∀ c ∈ text.toList, isNumberPart c = true) : Without marks text := by
  intro c member marked
  have part := parts c member
  rw [(foreign.spread marked).1.2] at part
  cases part

theorem number (foreign : Foreign marks) (value : Number) : Without marks value.text :=
  foreign.ofNumberParts value.isNumberPart_text

theorem nat (foreign : Foreign marks) (value : Nat) : Without marks (toString value) := by
  refine foreign.ofNumberParts fun c member => ?_
  rw [Nat.toString_eq_ofList_toDigits, String.toList_ofList] at member
  exact isNumberPart_digit member

/-- The normal form of a keyword has no foreign character that its text has not. -/
theorem keyword? (foreign : Foreign marks) {text keyword : String} (clean : Without marks text)
    (normal : SqlDdl.keyword? text = some keyword) : Without marks keyword :=
  clean.keyword? normal foreign.signs foreign.space

theorem marker (foreign : Foreign marks) {marker : Marker} {canonical keyword : String}
    (clean : Avoids marks marker.texts) (own : Without marks canonical)
    (normal : marker.keyword? canonical = some keyword) : Without marks keyword := by
  refine Without.marker ?_ own normal foreign.signs foreign.space
  rintro text rfl
  exact (avoids_singleton rfl).mp clean

/-- An operator in upper case between two spaces. -/
theorem operator (foreign : Foreign marks) {operator : String} (clean : Without marks operator) :
    Without marks (" " ++ upper operator ++ " ") :=
  (foreign.blank.append (clean.upper foreign.signs)).append foreign.blank

end Foreign

theorem foreign_quoteMarks : Foreign quoteMarks := by
  decide

/-- What stands before the operand of a unary operator. -/
def Expr.unarySign (operator : String) : String :=
  if operator = "-" ∨ operator = "+" ∨ operator = "~" then operator
  else if operator = "!" then "NOT "
  else upper operator ++ " "

theorem Expr.applyUnary_eq (operator operand : String) :
    applyUnary operator operand = unarySign operator ++ operand := by
  simp only [applyUnary, unarySign]
  split
  · rfl
  · split <;> rfl

theorem Foreign.unarySign {marks : List Char} (foreign : Foreign marks) {operator : String}
    (clean : Without marks operator) : Without marks (Expr.unarySign operator) := by
  rw [Expr.unarySign]
  split
  · exact clean
  · split
    · exact (foreign.plain (by decide : isPlain "NOT".toList = true)).append foreign.blank
    · exact (clean.upper foreign.signs).append foreign.blank

end SqlDdl
