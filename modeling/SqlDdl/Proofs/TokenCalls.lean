import SqlDdl.Proofs.TokenLists

/-! What is written after any sequence of calls that add tokens: the texts that were given to the calls, without the
blank ones and without the blanks at their ends. So a list of tokens may be put into another one token by token or as
a single text. -/

namespace SqlDdl

/-- The blanks at its ends do not make a text blank. -/
theorem hasText_trim_eq (text : String) : hasText (trim text) = hasText text := by
  rw [Bool.eq_iff_iff]
  constructor
  · intro filled
    obtain ⟨c, member, letter⟩ := List.any_eq_true.mp filled
    exact List.any_eq_true.mpr ⟨c, mem_of_mem_trim member, letter⟩
  · exact hasText_trim

namespace Tokens

/-- A call that adds tokens. -/
inductive Call where
  | push (text : String)
  | pushOpt (text : Option String)
  | pushKeyword (text : String)
  | extend (texts : List String)
deriving DecidableEq

/-- The texts that a call is given, with a keyword in its normal form. -/
def Call.given : Call → List String
  | push text => [text]
  | pushOpt text => text.toList
  | pushKeyword text => (keyword? text).toList
  | extend texts => texts

/-- Whether a call is given a text that is not blank. -/
def Call.isFilled (call : Call) : Bool :=
  call.given.any hasText

/-- The tokens after one more call. -/
def after (tokens : Tokens) : Call → Tokens
  | .push text => tokens.push text
  | .pushOpt text => tokens.pushOpt text
  | .pushKeyword text => tokens.pushKeyword text
  | .extend texts => tokens.extend texts

/-- The tokens after some calls, the first of which finds none. -/
def ofCalls (calls : List Call) : Tokens :=
  calls.foldl after empty

/-- The texts of a list that are not blank, without the blanks at their ends. -/
def shown (texts : List String) : List String :=
  (texts.filter hasText).map trim

theorem shown_append (first second : List String) : shown (first ++ second) = shown first ++ shown second := by
  rw [shown, List.filter_append, List.map_append]
  rfl

theorem toList_extend (tokens : Tokens) (texts : List String) :
    (tokens.extend texts).toList = tokens.toList ++ shown texts := by
  have same : hasText ∘ trim = hasText := by
    funext text
    rw [Function.comp_apply, hasText_trim_eq]
  have written : (texts.map fun text => some (trim text)).filterMap id = texts.map trim := by
    rw [List.filterMap_map]
    exact congrFun List.filterMap_eq_map texts
  rw [toList, extend, List.filterMap_append, List.filter_append, written, List.filter_map, same]
  rfl

theorem toList_pushOpt (tokens : Tokens) (text : Option String) :
    (tokens.pushOpt text).toList = tokens.toList ++ shown text.toList := by
  rw [← toList_extend]
  cases text with
  | none => simp [toList, pushOpt, extend]
  | some text => rfl

theorem toList_text_eq_shown (text : String) : (Tokens.text text).toList = shown [text] :=
  empty.toList_pushOpt (some text)

/-- One more call writes the texts that it is given. -/
theorem toList_after (tokens : Tokens) (call : Call) :
    (tokens.after call).toList = tokens.toList ++ shown call.given := by
  cases call with
  | push text => exact tokens.toList_pushOpt (some text)
  | pushOpt text => exact tokens.toList_pushOpt text
  | pushKeyword text => exact tokens.toList_pushOpt (keyword? text)
  | extend texts => exact tokens.toList_extend texts

theorem toList_foldl (calls : List Call) (tokens : Tokens) :
    (calls.foldl after tokens).toList = tokens.toList ++ shown (calls.flatMap Call.given) := by
  induction calls generalizing tokens with
  | nil => exact (List.append_nil _).symm
  | cons call calls ih => rw [List.foldl_cons, ih, toList_after, List.flatMap_cons, shown_append, List.append_assoc]

/-- A sequence of calls writes the texts that all of them are given. -/
theorem toList_ofCalls (calls : List Call) : (ofCalls calls).toList = shown (calls.flatMap Call.given) := by
  have nothing : empty.toList = [] := rfl
  rw [ofCalls, toList_foldl, nothing, List.nil_append]

theorem isToken_of_mem_shown {texts : List String} : ∀ text ∈ shown texts, IsToken text := by
  intro text member
  obtain ⟨source, inside, rfl⟩ := List.mem_map.mp member
  have filled : hasText (trim source) = true := hasText_trim (List.mem_filter.mp inside).2
  refine ⟨?_, isTrimmed_trim source⟩
  intro none
  rw [none] at filled
  cases filled

/-- What is a token already is shown as it is. -/
theorem shown_of_isToken {texts : List String} (tokens : ∀ text ∈ texts, IsToken text) : shown texts = texts := by
  rw [shown, List.filter_eq_self.mpr fun text member => (tokens text member).hasText]
  exact (List.map_congr_left fun text member => (tokens text member).trimmed.trim_eq).trans (List.map_id _)

/-- A text is shown alike once it was shown. -/
theorem shown_intercalate (text : String) : shown [" ".intercalate (shown [text])] = shown [text] := by
  cases filled : hasText text with
  | false =>
    have none : shown [text] = [] := by
      rw [shown, List.filter_cons_of_neg (by rw [filled]; exact Bool.false_ne_true)]
      rfl
    rw [none]
    rfl
  | true =>
    have single : shown [text] = [trim text] := by
      rw [shown, List.filter_cons_of_pos filled]
      rfl
    rw [single, String.intercalate_singleton, ← single, shown_of_isToken isToken_of_mem_shown]

/-- Calls without a text are of no use. -/
theorem shown_filter (calls : List Call) :
    shown ((calls.filter Call.isFilled).flatMap Call.given) = shown (calls.flatMap Call.given) := by
  induction calls with
  | nil => rfl
  | cons call calls ih =>
    rw [List.filter_cons, List.flatMap_cons, shown_append]
    split
    · rw [List.flatMap_cons, shown_append, ih]
    · rename_i blank
      have none : call.given.filter hasText = [] := by
        refine List.filter_eq_nil_iff.mpr fun text member filled => blank ?_
        exact List.any_eq_true.mpr ⟨text, member, filled⟩
      rw [ih, shown, shown, none]
      rfl

theorem isToken_join {tokens : Tokens} (present : tokens.toList ≠ [])
    (each : ∀ text ∈ tokens.toList, IsToken text) : IsToken tokens.join :=
  .intercalate present each

/-- Tokens are written alike whether they are added one by one or as a single text. -/
theorem join_extend (tokens : Tokens) {others : Tokens} (each : ∀ text ∈ others.toList, IsToken text) :
    (tokens.extend others.toList).join = (tokens.push others.join).join := by
  have single : (tokens.push others.join).toList = tokens.toList ++ shown [others.join] :=
    tokens.toList_pushOpt (some others.join)
  rw [join_eq, join_eq, toList_extend, single, shown_of_isToken each]
  by_cases none : others.toList = []
  · rw [join_eq, none]
    rfl
  · have token : IsToken others.join := isToken_join none each
    have alone : shown [others.join] = [others.join] :=
      shown_of_isToken (List.forall_mem_singleton.mpr token)
    rw [alone, intercalate_append " " _ none, intercalate_append " " _ (List.cons_ne_nil _ _),
      String.intercalate_singleton]
    rfl

/-- After any calls both ways to read the tokens give the same list. Its texts are not blank and have no blanks at their
ends, and joined with single spaces they are such a text again, if there are any. Calls that are given no text but blank
ones make no difference. The tokens of other calls may be added one by one or as a single text. -/
theorem ofCalls_written (calls : List Call) :
    (ofCalls calls).present = (ofCalls calls).toList ∧
    (∀ text ∈ (ofCalls calls).present, hasText text = true ∧ IsTrimmed text.toList) ∧
    (ofCalls calls).join = " ".intercalate (ofCalls calls).present ∧
    ((ofCalls calls).join = "" ∨ hasText (ofCalls calls).join = true ∧ IsTrimmed (ofCalls calls).join.toList) ∧
    (∀ others, others.filter Call.isFilled = calls.filter Call.isFilled →
      (ofCalls others).present = (ofCalls calls).present ∧ (ofCalls others).join = (ofCalls calls).join) ∧
    ∀ others, ((ofCalls calls).extend (ofCalls others).toList).join =
      ((ofCalls calls).push (ofCalls others).join).join := by
  have tokens : ∀ calls, ∀ text ∈ (ofCalls calls).toList, IsToken text := fun calls => by
    rw [toList_ofCalls]
    exact isToken_of_mem_shown
  have read := present_eq_toList (ofCalls calls)
  refine ⟨read, fun text member => ?_, rfl, ?_, fun others same => ?_,
    fun others => join_extend _ (tokens others)⟩
  · have token := tokens calls text (read ▸ member)
    exact ⟨token.hasText, token.trimmed⟩
  · by_cases none : (ofCalls calls).toList = []
    · left
      rw [join_eq, none]
      rfl
    · right
      have token := isToken_join none (tokens calls)
      exact ⟨token.hasText, token.trimmed⟩
  · have lists : (ofCalls others).toList = (ofCalls calls).toList := by
      rw [toList_ofCalls, toList_ofCalls, ← shown_filter others, ← shown_filter calls, same]
    rw [present_eq_toList, read, join_eq, join_eq, lists]
    exact ⟨rfl, rfl⟩

/-- Calls with padded, absent and blank texts. -/
def paddedCalls : List Call :=
  [.push " a\t", .pushOpt none, .pushKeyword "if  not\nexists", .push "\u2003", .extend ["", "\u00a0b"],
    .pushKeyword " "]

/-- The same calls without those for an absent or blank token. -/
def filledCalls : List Call :=
  [.push " a\t", .pushKeyword "if  not\nexists", .extend ["", "\u00a0b"]]

theorem paddedCalls_written :
    (ofCalls paddedCalls).present = ["a", "IF NOT EXISTS", "b"] ∧
      (hasText "IF NOT EXISTS" = true ∧ IsTrimmed "IF NOT EXISTS".toList) ∧
      filledCalls.filter Call.isFilled = paddedCalls.filter Call.isFilled ∧
      (ofCalls filledCalls).join = (ofCalls paddedCalls).join ∧
      ((ofCalls paddedCalls).extend (ofCalls filledCalls).toList).join =
        ((ofCalls paddedCalls).push (ofCalls filledCalls).join).join := by
  obtain ⟨-, tokens, -, -, filled, nested⟩ := ofCalls_written paddedCalls
  have read : (ofCalls paddedCalls).present = ["a", "IF NOT EXISTS", "b"] := by decide +kernel
  have member : "IF NOT EXISTS" ∈ (ofCalls paddedCalls).present := by
    rw [read]
    exact List.mem_cons_of_mem _ List.mem_cons_self
  have same : filledCalls.filter Call.isFilled = paddedCalls.filter Call.isFilled := by decide +kernel
  exact ⟨read, tokens _ member, same, (filled filledCalls same).2, nested filledCalls⟩

end Tokens

end SqlDdl
