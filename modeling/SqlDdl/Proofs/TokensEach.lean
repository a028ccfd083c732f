import SqlDdl.Tokens

/-! Properties of every token of a list, one law for each way to build the list. -/

namespace SqlDdl.Tokens

@[simp] theorem mem_append {entry : Option String} {first second : Tokens} :
    entry ∈ (first ++ second).entries ↔ entry ∈ first.entries ∨ entry ∈ second.entries :=
  List.mem_append

@[simp] theorem mem_text {entry : Option String} {value : String} :
    entry ∈ (text value).entries ↔ entry = some (trim value) :=
  List.mem_singleton

@[simp] theorem mem_word {entry : Option String} {value : String} :
    entry ∈ (word value).entries ↔ entry = (keyword? value).map trim :=
  List.mem_singleton

/-- Whether every token that is present has a property. -/
def Each (property : String → Prop) (tokens : Tokens) : Prop :=
  ∀ text, some text ∈ tokens.entries → property text

namespace Each

variable {property : String → Prop}

theorem empty : Each property .empty :=
  fun _ member => nomatch member

theorem append {first second : Tokens} (before : Each property first) (after : Each property second) :
    Each property (first ++ second) := by
  intro text member
  rcases List.mem_append.mp member with inFirst | inSecond
  · exact before text inFirst
  · exact after text inSecond

theorem opt {text : Option String} (holds : ∀ value, text = some value → property (trim value)) :
    Each property (.opt text) := by
  intro token member
  obtain ⟨value, same, rfl⟩ := Option.map_eq_some_iff.mp (List.mem_singleton.mp member).symm
  exact holds value same

theorem part {α : Type} {value : Option α} {tokens : α → Tokens}
    (holds : ∀ found, value = some found → Each property (tokens found)) :
    Each property (.part value tokens) := by
  cases value with
  | none => exact empty
  | some found => exact holds found rfl

theorem concat {α : Type} {tokens : α → Tokens} {items : List α}
    (holds : ∀ item ∈ items, Each property (tokens item)) :
    Each property (.concat (items.map tokens)) := by
  intro text member
  obtain ⟨part, inside, found⟩ := List.mem_flatMap.mp member
  obtain ⟨item, listed, rfl⟩ := List.mem_map.mp inside
  exact holds item listed text found

theorem extend {α : Type} {text : α → String} {items : List α}
    (holds : ∀ item ∈ items, property (trim (text item))) :
    Each property (Tokens.empty.extend (items.map text)) := by
  intro token member
  obtain ⟨written, inside, same⟩ := List.mem_map.mp (show _ ∈ (items.map text).map _ from member)
  obtain ⟨item, listed, rfl⟩ := List.mem_map.mp inside
  cases Option.some.inj same
  exact holds item listed

theorem toList {tokens : Tokens} (each : Each property tokens) :
    ∀ text ∈ tokens.toList, property text := by
  intro text member
  obtain ⟨entry, inside, same⟩ := List.mem_filterMap.mp (List.mem_filter.mp member).1
  exact each text (by rw [← show entry = some text from same]; exact inside)

end Each

end SqlDdl.Tokens
