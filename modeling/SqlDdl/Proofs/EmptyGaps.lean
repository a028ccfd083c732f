import Mathlib.Data.List.Basic
import SqlDdl.Expr.Render
import SqlDdl.Proofs.TokenLists

/-! Token lists that are the same but for an empty name in one of them. They are written as texts that are different
whatever follows, unless nothing is quoted. -/

namespace SqlDdl

section Diverge

/-- Whether two texts are different whatever follows them. -/
def Diverge (first second : String) : Prop :=
  ∀ later later', first ++ later ≠ second ++ later'

theorem Diverge.symm {first second : String} (apart : Diverge first second) : Diverge second first :=
  fun later later' same => apart later' later same.symm

theorem Diverge.ne {first second : String} (apart : Diverge first second) : first ≠ second := by
  rintro rfl
  exact apart "" "" rfl

theorem Diverge.ne_empty {first second : String} (apart : Diverge first second) : first ≠ "" := by
  rintro rfl
  exact apart second "" (by rw [String.empty_append, String.append_empty])

theorem Diverge.prepend {first second : String} (apart : Diverge first second) (before : String) :
    Diverge (before ++ first) (before ++ second) := by
  intro later later' same
  rw [String.append_assoc, String.append_assoc, String.append_right_inj] at same
  exact apart later later' same

theorem Diverge.append {first second : String} (apart : Diverge first second) (after after' : String) :
    Diverge (first ++ after) (second ++ after') := by
  intro later later' same
  rw [String.append_assoc, String.append_assoc] at same
  exact apart _ _ same

/-- What stands in one of two texts before their first parenthesis sets them apart. -/
theorem diverge_insert {inserted back : String} (filled : inserted ≠ "") (clean : '(' ∉ inserted.toList)
    (opens : '(' ∈ back.toList) (front : String) : Diverge (front ++ (inserted ++ back)) (front ++ back) := by
  intro later later' same
  have chars := congrArg String.toList same
  simp only [String.toList_append, List.append_assoc, List.append_cancel_left_eq] at chars
  have first := congrArg (List.idxOf '(') chars
  rw [List.idxOf_append_of_notMem clean, List.idxOf_append_of_mem opens, List.idxOf_append_of_mem opens] at first
  have some : inserted.toList.length ≠ 0 := mt (String.toList_eq_nil_iff.mp ∘ List.length_eq_zero_iff.mp) filled
  omega

end Diverge

section Gap

variable {config : Config} {written written' : Bool} {tokens tokens' : List String}

/-- The tokens of an empty name, if it is written. -/
def emptyName (config : Config) (written : Bool) : List String :=
  if written then (Tokens.text (config.quote "")).toList else []

/-- Whether two token lists are the same but for an empty name, which each of them may have or not, and after which a
parenthesis opens. -/
inductive EmptyGap (config : Config) : Bool → Bool → List String → List String → Prop
  | same (written : Bool) (tokens : List String) : EmptyGap config written written tokens tokens
  | gap (written written' : Bool) (front back : List String) (opens : ∃ text ∈ back, '(' ∈ text.toList) :
    EmptyGap config written written' (front ++ emptyName config written ++ back)
      (front ++ emptyName config written' ++ back)

theorem nonempty?_cases (name : Option String) : name = some "" ∨ nonempty? name = name := by
  cases name with
  | none => exact Or.inr rfl
  | some text =>
    by_cases empty : text = ""
    · exact Or.inl (congrArg some empty)
    · exact Or.inr (Option.filter_some_pos (by simpa using empty))

theorem eq_or_empty {name name' : Option String} (same : nonempty? name = nonempty? name') :
    name = name' ∨ name = none ∧ name' = some "" ∨ name = some "" ∧ name' = none := by
  have none : nonempty? (some "") = none := Option.filter_some_neg (by simp)
  rcases nonempty?_cases name with rfl | given
  · rcases nonempty?_cases name' with rfl | given'
    · exact Or.inl rfl
    · exact Or.inr (Or.inr ⟨rfl, by rw [← given', ← same, none]⟩)
  · rcases nonempty?_cases name' with rfl | given'
    · exact Or.inr (Or.inl ⟨by rw [← given, same, none], rfl⟩)
    · exact Or.inl (by rw [← given, same, given'])

/-- Two names of which the empty one counts as absent leave such a gap. -/
theorem EmptyGap.ofNames {name name' : Option String} (same : nonempty? name = nonempty? name')
    (front : List String) {back : List String} (opens : ∃ text ∈ back, '(' ∈ text.toList) :
    EmptyGap config (name == some "") (name' == some "")
      (front ++ (Tokens.opt (name.map config.quote)).toList ++ back)
      (front ++ (Tokens.opt (name'.map config.quote)).toList ++ back) := by
  have empty : (some "" == some "") = true := beq_self_eq_true _
  rcases eq_or_empty same with rfl | ⟨rfl, rfl⟩ | ⟨rfl, rfl⟩
  · exact .same _ _
  · rw [empty]
    exact .gap false true front back opens
  · rw [empty]
    exact .gap true false front back opens

theorem EmptyGap.append {first second : Tokens} (gap : EmptyGap config written written' first.toList second.toList)
    (after : Tokens) : EmptyGap config written written' (first ++ after).toList (second ++ after).toList := by
  rw [Tokens.toList_append, Tokens.toList_append]
  generalize first.toList = tokens, second.toList = tokens' at gap
  cases gap with
  | same => exact .same _ _
  | gap _ front back opens =>
    obtain ⟨text, inside, opening⟩ := opens
    rw [List.append_assoc _ back, List.append_assoc _ back]
    exact .gap written written' front (back ++ after.toList) ⟨text, List.mem_append_left _ inside, opening⟩

theorem EmptyGap.prepend {first second : Tokens} (before : Tokens)
    (gap : EmptyGap config written written' first.toList second.toList) :
    EmptyGap config written written' (before ++ first).toList (before ++ second).toList := by
  rw [Tokens.toList_append, Tokens.toList_append]
  generalize first.toList = tokens, second.toList = tokens' at gap
  cases gap with
  | same => exact .same _ _
  | gap _ front back opens =>
    simp only [← List.append_assoc]
    exact .gap written written' (before.toList ++ front) back opens

theorem emptyName_never (never : config.quoting = .never) (written : Bool) : emptyName config written = [] := by
  obtain ⟨dialect, quoting⟩ := config
  cases never
  cases written <;> rfl

theorem not_mem_quote_empty (quotes : config.quoting ≠ .never) : '(' ∉ (config.quote "" ++ " ").toList := by
  rcases quote_cases quotes "" with wrapped | ⟨_, plain, _⟩
  · rw [wrapped]
    cases config.dialect <;> decide
  · cases plain

/-- An empty name sets two texts apart if a parenthesis opens after it. -/
theorem diverge_emptyName (quotes : config.quoting ≠ .never) (front : List String) {back : List String}
    (opens : ∃ text ∈ back, '(' ∈ text.toList) :
    Diverge (" ".intercalate (front ++ emptyName config true ++ back))
      (" ".intercalate (front ++ emptyName config false ++ back)) := by
  obtain ⟨text, inside, opening⟩ := opens
  have present : back ≠ [] := List.ne_nil_of_mem inside
  have name : emptyName config true = [config.quote ""] := by
    rw [emptyName, if_pos rfl, Tokens.toList_text (isToken_quote quotes "")]
  have none : emptyName config false = [] := if_neg Bool.false_ne_true
  rw [name, none, List.append_nil, List.append_assoc, List.singleton_append,
    intercalate_append _ _ (List.cons_ne_nil _ _), intercalate_append _ _ present,
    String.intercalate_cons_of_ne_nil present]
  have filled : config.quote "" ++ " " ≠ "" := by simp
  exact diverge_insert filled (not_mem_quote_empty quotes) (mem_toList_intercalate inside opening) _

theorem EmptyGap.diverge (quotes : config.quoting ≠ .never) (gap : EmptyGap config written written' tokens tokens')
    (other : written ≠ written') : Diverge (" ".intercalate tokens) (" ".intercalate tokens') := by
  cases gap with
  | same => exact absurd rfl other
  | gap _ front back opens =>
    have apart := diverge_emptyName quotes front opens
    cases written with
    | true =>
      rw [eq_false_of_ne_true other.symm]
      exact apart
    | false =>
      rw [eq_true_of_ne_false other.symm]
      exact apart.symm

/-- Whether two values are equal exactly if they have the same empty names or nothing is quoted, and their texts are set
apart otherwise. -/
structure Alike {α β : Type} (config : Config) (text : β → String) (written written' : α) (value value' : β) :
    Prop where
  eq_iff : value = value' ↔ config.quoting = .never ∨ written = written'
  diverge : value = value' ∨ Diverge (text value) (text value')

theorem EmptyGap.alike (gap : EmptyGap config written written' tokens tokens') :
    Alike config id written written' (" ".intercalate tokens) (" ".intercalate tokens') := by
  by_cases equal : config.quoting = .never ∨ written = written'
  · have same : tokens = tokens' := by
      cases gap with
      | same => rfl
      | gap =>
        rcases equal with never | rfl
        · rw [emptyName_never never, emptyName_never never]
        · rfl
    exact ⟨iff_of_true (congrArg _ same) equal, Or.inl (congrArg _ same)⟩
  · obtain ⟨quotes, other⟩ := not_or.mp equal
    have apart := gap.diverge quotes other
    exact ⟨iff_of_false apart.ne equal, Or.inr apart⟩

/-- Texts with a comma and a space before each of them. -/
def commaTail (texts : List String) : String :=
  String.join (texts.map (", " ++ ·))

theorem commaTail_eq {texts : List String} (present : texts ≠ []) : commaTail texts = ", " ++ commaList texts := by
  obtain ⟨first, later, rfl⟩ := List.exists_cons_of_ne_nil present
  rw [commaTail, commaList, intercalate_cons, List.map_cons, String.join_cons, String.append_assoc]

theorem Alike.cons {text text' : String} {texts texts' : List String} {later later' : List Bool}
    (first : Alike config id written written' text text')
    (rest : Alike config commaTail later later' texts texts') :
    Alike config commaTail (written :: later) (written' :: later') (text :: texts) (text' :: texts') where
  eq_iff := by
    rw [List.cons.injEq, List.cons.injEq, first.eq_iff, rest.eq_iff, or_and_left]
  diverge := by
    have shape : ∀ (text : String) texts, commaTail (text :: texts) = ", " ++ text ++ commaTail texts :=
      fun text texts => String.join_cons
    rw [shape, shape]
    rcases first.diverge with rfl | apart
    · rcases rest.diverge with rfl | apart
      · exact Or.inl rfl
      · exact Or.inr (apart.prepend _)
    · exact Or.inr ((apart.prepend ", ").append _ _)

theorem Alike.eq_of_commaList {texts texts' : List String} {written written' : List Bool}
    (alike : Alike config commaTail written written' texts texts') (same : commaList texts = commaList texts') :
    texts = texts' := by
  refine alike.diverge.resolve_right fun apart => ?_
  by_cases none : texts = []
  · rw [none] at apart
    exact apart.ne_empty rfl
  · by_cases none' : texts' = []
    · rw [none'] at apart
      exact apart.symm.ne_empty rfl
    · rw [commaTail_eq none, commaTail_eq none', same] at apart
      exact apart.ne rfl

end Gap

end SqlDdl
