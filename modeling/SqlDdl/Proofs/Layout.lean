import SqlDdl.Proofs.Induction
import SqlDdl.Proofs.KeywordForm
import SqlDdl.Proofs.PlainTexts
import SqlDdl.Proofs.TokensEach

/-! Properties of pieces of SQL that are closed under all ways in which SQL is put together. -/

namespace SqlDdl

/-- Whether a text is empty or has a property. -/
def OrEmpty (holds : String → Prop) (text : String) : Prop :=
  text = "" ∨ holds text

/-- The words that are written as they stand. -/
def fixedWords : List String := [
  "TRUE", "FALSE", "NULL", "*", "SELECT", "DISTINCT", "FROM", "WHERE", "GROUP BY", "HAVING", "ORDER BY",
  "LIMIT", "UNION", "ON", "USING", "REFERENCES", "CONSTRAINT", "CHECK", "GENERATED ALWAYS", "AS",
  "TEMPORARY", "IF NOT EXISTS", "IGNORE"]

/-- What stands between two parts of a text, the commas of lists apart. -/
def joints : List String := [" ", ".", " AS ", " AND ", " OR ", " OFFSET "]

/-- A property that every piece of SQL has which a configuration writes, if the texts that are written are
admitted in their roles. The flag says whether the property allows for commas outside of parentheses. -/
structure Layout (config : Config) (admits : RoleText → Prop) (holds : Bool → String → Prop) : Prop where
  fixed {commas text} (word : text ∈ fixedWords) : holds commas text
  number {commas} (value : Number) : holds commas value.text
  nat {commas} (value : Nat) : holds commas (toString value)
  name {commas name} (admitted : admits (.identifier, name)) : holds commas (config.quote name)
  string {commas value} (admitted : admits (.literal, value)) : holds commas (stringLiteral value)
  quotedString {commas value} (admitted : admits (.literal, value)) : holds commas (enclose '"' '"' value)
  keyword {commas text keyword} (admitted : admits (.keyword, text))
    (normal : keyword? text = some keyword) : holds commas keyword
  verbatim {commas text} (admitted : admits (.verbatim, text)) : OrEmpty (holds commas) text
  param {commas name} (admitted : admits (.param, name)) : holds commas (":" ++ name)
  function {commas name args} (admitted : admits (.function, name)) (group : holds commas args) :
    holds commas (name ++ args)
  aggregate {commas name args} (admitted : admits (.aggregate, name)) (group : holds commas args) :
    holds commas (upper name ++ args)
  typeName {commas name size} (admitted : admits (.typeName, name)) (group : OrEmpty (holds commas) size) :
    OrEmpty (holds commas) (upper (trim name) ++ size)
  unary {commas operator operand} (admitted : admits (.operator, operator)) (inner : holds commas operand) :
    holds commas (Expr.unarySign operator ++ operand)
  binary {commas operator left right} (admitted : admits (.operator, operator)) (before : holds commas left)
    (after : holds commas right) : holds commas (left ++ " " ++ upper operator ++ " " ++ right)
  joint {commas separator first second} (known : separator ∈ joints) (before : holds commas first)
    (after : holds commas second) : holds commas (first ++ separator ++ second)
  comma {first second} (before : holds true first) (after : holds true second) :
    holds true (first ++ ", " ++ second)
  ofCommas {commas text} (inner : holds commas text) : holds true text
  parenthesized {commas text} (inner : OrEmpty (holds true) text) : holds commas (parenthesized text)
  trim {commas text} (inner : holds commas text) : OrEmpty (holds commas) (SqlDdl.trim text)
  /-- Texts with the property are never blank, unless the empty text has it. -/
  filled : (∀ {commas text}, holds commas text → hasText text = true) ∨ ∀ {commas}, holds commas ""

theorem hasText_trim {text : String} (filled : hasText text = true) : hasText (trim text) = true := by
  obtain ⟨c, member, letter⟩ := List.any_eq_true.mp filled
  obtain ⟨before, after, same, blankBefore, blankAfter⟩ := exists_eq_append_trim text
  have nonblank : isBlank c = false := by simpa using letter
  refine List.any_eq_true.mpr ⟨c, ?_, letter⟩
  rw [same] at member
  rcases List.mem_append.mp member with inFront | inAfter
  · refine (List.mem_append.mp inFront).resolve_left fun inBefore => ?_
    simp [blankBefore c inBefore] at nonblank
  · simp [blankAfter c inAfter] at nonblank

section Texts

variable {property : RoleText → Prop}

theorem forall_mem_roleText? {role : Role} {text : Option String} :
    (∀ entry ∈ roleText? role text, property entry) ↔ ∀ value, text = some value → property (role, value) := by
  cases text <;> simp [roleText?]

theorem forall_mem_partTexts {α : Type} {texts : α → List RoleText} {part : Option α} :
    (∀ entry ∈ partTexts texts part, property entry) ↔
      ∀ value, part = some value → ∀ entry ∈ texts value, property entry := by
  cases part <;> simp [partTexts]

theorem forall_mem_listTexts {α : Type} {texts : α → List RoleText} {items : Option (List α)} :
    (∀ entry ∈ listTexts texts items, property entry) ↔
      ∀ item ∈ items.getD [], ∀ entry ∈ texts item, property entry :=
  List.forall_mem_flatMap

end Texts

theorem holds_intercalate {holds : String → Prop} {separator : String} {texts : List String}
    (glue : ∀ {first second}, holds first → holds second → holds (first ++ separator ++ second))
    (present : texts ≠ []) (each : ∀ text ∈ texts, holds text) : holds (separator.intercalate texts) := by
  induction texts with
  | nil => exact absurd rfl present
  | cons text texts ih =>
    obtain ⟨first, rest⟩ := List.forall_mem_cons.mp each
    cases texts with
    | nil => exact String.intercalate_singleton ▸ first
    | cons next later =>
      rw [String.intercalate_cons_cons]
      exact glue first (ih (List.cons_ne_nil next later) rest)

/-- What holds of each word in upper case and is closed under spaces between texts holds of a normal form. -/
theorem holds_keyword {holds : String → Prop}
    (spaced : ∀ {first second}, holds first → holds second → holds (first ++ " " ++ second))
    {text keyword : String} (each : ∀ word ∈ splitWords text.toList, holds (upper (String.ofList word)))
    (normal : keyword? text = some keyword) : holds keyword := by
  obtain ⟨present, joined⟩ := eq_words_of_keyword? normal
  rw [joined]
  refine holds_intercalate spaced (mt List.map_eq_nil_iff.mp present) fun word member => ?_
  obtain ⟨source, inside, rfl⟩ := List.mem_map.mp member
  obtain ⟨cs, split, rfl⟩ := List.mem_map.mp inside
  exact each cs split

/-- What relates two texts with some data of the items that they are written for, and is closed under commas
between them, relates two lists with the data of all items. -/
theorem holds_commaList {α γ : Type} {holds : String → String → γ → Prop} {add : γ → γ → γ}
    {first second : α → String} {own : α → γ} {all : List α → γ}
    (empty : holds "" "" (all []))
    (comma : ∀ {a b c d x y}, holds a b x → holds c d y → holds (a ++ ", " ++ c) (b ++ ", " ++ d) (add x y))
    (alone : ∀ item, all [item] = own item) (cons : ∀ item later, all (item :: later) = add (own item) (all later))
    {items : List α} (each : ∀ item ∈ items, holds (first item) (second item) (own item)) :
    holds (commaList (items.map first)) (commaList (items.map second)) (all items) := by
  induction items with
  | nil => exact empty
  | cons item later ih =>
    obtain ⟨one, rest⟩ := List.forall_mem_cons.mp each
    cases later with
    | nil =>
      rw [alone, commaList, commaList, List.map_singleton, List.map_singleton, String.intercalate_singleton,
        String.intercalate_singleton]
      exact one
    | cons next later =>
      rw [cons, commaList, commaList, List.map_cons, List.map_cons, List.map_cons, List.map_cons,
        String.intercalate_cons_cons, String.intercalate_cons_cons]
      exact comma one (ih rest)

theorem OrEmpty.intercalate {holds : String → Prop} {separator : String} {texts : List String}
    (glue : ∀ {first second}, holds first → holds second → holds (first ++ separator ++ second))
    (each : ∀ text ∈ texts, holds text) : OrEmpty holds (separator.intercalate texts) := by
  cases texts with
  | nil => exact Or.inl rfl
  | cons text texts => exact Or.inr (holds_intercalate glue (List.cons_ne_nil text texts) each)

namespace Layout

variable {config : Config} {admits : RoleText → Prop} {holds : Bool → String → Prop} {commas : Bool}

/-- Whether every token is empty or has the property. -/
abbrev AllFit (holds : Bool → String → Prop) (commas : Bool) : Tokens → Prop :=
  Tokens.Each (OrEmpty (holds commas))

section Tokens

variable (laws : Layout config admits holds)
include laws

theorem trimmed {text : String} (either : OrEmpty (holds commas) text) :
    OrEmpty (holds commas) (SqlDdl.trim text) := by
  rcases either with rfl | inner
  · exact Or.inl rfl
  · exact laws.trim inner

theorem opt {text : Option String} (each : ∀ value, text = some value → OrEmpty (holds commas) value) :
    AllFit holds commas (.opt text) :=
  .opt fun value same => laws.trimmed (each value same)

theorem text {text : String} (inner : OrEmpty (holds commas) text) : AllFit holds commas (.text text) :=
  laws.opt fun _ same => Option.some.inj same ▸ inner

theorem fixedText {text : String} (word : text ∈ fixedWords) : AllFit holds commas (.text text) :=
  laws.text (Or.inr (laws.fixed word))

theorem word {text : String} (admitted : admits (.keyword, text)) : AllFit holds commas (.word text) :=
  laws.opt fun _ normal => Or.inr (laws.keyword admitted normal)

theorem optKeyword {text : Option String} (admitted : ∀ entry ∈ roleText? .keyword text, admits entry)
    {keyword : String} (normal : text.bind keyword? = some keyword) : holds commas keyword := by
  obtain ⟨value, same, isNormal⟩ := Option.bind_eq_some_iff.mp normal
  exact laws.keyword (forall_mem_roleText?.mp admitted value same) isNormal

theorem optWord {text : Option String} (admitted : ∀ entry ∈ roleText? .keyword text, admits entry) :
    AllFit holds commas (.optWord text) :=
  laws.opt fun _ normal => Or.inr (laws.optKeyword admitted normal)

theorem optMarker {canonical : String} (own : canonical ∈ fixedWords) {marker : Option Marker}
    (admitted : ∀ entry ∈ partTexts Marker.texts marker, admits entry) {keyword : String}
    (normal : marker.bind (Marker.keyword? canonical) = some keyword) : holds commas keyword := by
  obtain ⟨value, same, isNormal⟩ := Option.bind_eq_some_iff.mp normal
  rw [forall_mem_partTexts] at admitted
  cases value with
  | flag isSet =>
    cases isSet with
    | true => exact Option.some.inj isNormal ▸ laws.fixed own
    | false => cases isNormal
  | text text => exact laws.keyword (admitted _ same _ (List.mem_singleton_self _)) isNormal

theorem marker {canonical : String} (own : canonical ∈ fixedWords) {marker : Option Marker}
    (admitted : ∀ entry ∈ partTexts Marker.texts marker, admits entry) :
    AllFit holds commas (.marker canonical marker) :=
  laws.opt fun _ normal => Or.inr (laws.optMarker own admitted normal)

theorem optName {name : Option String} (admitted : ∀ entry ∈ roleText? .identifier name, admits entry) :
    AllFit holds commas (.opt (name.map config.quote)) := by
  refine laws.opt fun quoted found => Or.inr ?_
  obtain ⟨value, same, rfl⟩ := Option.map_eq_some_iff.mp found
  exact laws.name (forall_mem_roleText?.mp admitted value same)

theorem optVerbatim {text : Option String} (admitted : ∀ entry ∈ roleText? .verbatim text, admits entry) :
    AllFit holds commas (.opt text) :=
  laws.opt fun value same => laws.verbatim (forall_mem_roleText?.mp admitted value same)

omit laws in
theorem holds_of_mem_toList {tokens : Tokens} (each : AllFit holds commas tokens) :
    ∀ text ∈ tokens.toList, holds commas text := by
  intro text member
  refine (each.toList text member).resolve_left ?_
  rintro rfl
  cases (List.mem_filter.mp member).2

theorem join {tokens : Tokens} (each : AllFit holds commas tokens) :
    OrEmpty (holds commas) tokens.join :=
  .intercalate (laws.joint (by decide)) (holds_of_mem_toList each)

/-- Tokens of which one is known to have the property are not all blank. -/
theorem join_of_mem {tokens : Tokens} (each : AllFit holds commas tokens) {text : String}
    (member : some (SqlDdl.trim text) ∈ tokens.entries) (inner : holds commas text) :
    holds commas tokens.join := by
  rcases laws.filled with filled | empty
  · refine holds_intercalate (laws.joint (by decide)) ?_ (holds_of_mem_toList each)
    have written : SqlDdl.trim text ∈ tokens.toList :=
      List.mem_filter.mpr ⟨List.mem_filterMap.mpr ⟨_, member, rfl⟩, hasText_trim (filled inner)⟩
    exact List.ne_nil_of_mem written
  · rcases laws.join each with none | some
    · exact none ▸ empty
    · exact some

end Tokens

end Layout

end SqlDdl
