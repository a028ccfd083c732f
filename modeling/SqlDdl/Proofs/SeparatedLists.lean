import Mathlib.Data.List.Basic
import SqlDdl.Proofs.NameReader
import SqlDdl.Proofs.TokenLists

/-! Readers of lists with a separator between their items. -/

namespace SqlDdl

/-- Reads items with a separator between them until no further separator follows, at most as many items as a
bound says. -/
def readSeparated {α : Type} (separator : String) (item : Reader α) : Nat → Reader (List α)
  | 0, _ => none
  | bound + 1, cs =>
    (item cs).bind fun found =>
      match separator.toList.isPrefixOf? found.2 with
      | some rest => (readSeparated separator item bound rest).map fun later => (found.1 :: later.1, later.2)
      | none => some ([found.1], found.2)

/-- Reads a list of items with a separator between them that takes the whole of a text. -/
def readToEnd {α : Type} (separator : String) (item : Reader α) : List Char → Option (List α)
  | [] => some []
  | cs =>
    (readSeparated separator item (cs.length + 1) cs).bind fun found =>
      if found.2.isEmpty then some found.1 else none

theorem isPrefixOf?_append (front rest : List Char) : front.isPrefixOf? (front ++ rest) = some rest :=
  List.isPrefixOf?_eq_some_iff_append_eq.mpr rfl

variable {α β : Type} {separator : String} {item : Reader α}

theorem readSeparated_next {cs rest : List Char} {found : α}
    (read : item cs = some (found, separator.toList ++ rest)) (bound : Nat) :
    readSeparated separator item (bound + 1) cs =
      (readSeparated separator item bound rest).map fun later => (found :: later.1, later.2) := by
  simp only [readSeparated, read, Option.bind_some, isPrefixOf?_append]

theorem readSeparated_last {cs rest : List Char} {found : α} (read : item cs = some (found, rest))
    (stops : separator.toList.isPrefixOf? rest = none) (bound : Nat) :
    readSeparated separator item (bound + 1) cs = some ([found], rest) := by
  simp only [readSeparated, read, Option.bind_some, stops]

variable {text : β → String} {value : β → α} {ends : List Char → Prop}

/-- Items are read back up to a text that does not begin with the separator, if each of them is read back
where an item may end. -/
theorem readSeparated_intercalate (first : β) (later : List β)
    (reads : ∀ x ∈ first :: later, ∀ rest, ends rest →
      item ((text x).toList ++ rest) = some (value x, rest))
    (between : ∀ rest, ends (separator.toList ++ rest)) {rest : List Char} (endsRest : ends rest)
    (stops : separator.toList.isPrefixOf? rest = none) (bound : Nat) (enough : later.length < bound) :
    readSeparated separator item bound
        ((separator.intercalate ((first :: later).map text)).toList ++ rest) =
      some ((first :: later).map value, rest) := by
  induction later generalizing first bound with
  | nil =>
    obtain ⟨bound, rfl⟩ := Nat.exists_eq_succ_of_ne_zero (Nat.ne_zero_of_lt enough)
    have read := reads first List.mem_cons_self rest endsRest
    rw [List.map_singleton, String.intercalate_singleton]
    exact readSeparated_last read stops bound
  | cons next later ih =>
    obtain ⟨bound, rfl⟩ := Nat.exists_eq_succ_of_ne_zero (Nat.ne_zero_of_lt enough)
    obtain ⟨readFirst, readLater⟩ := List.forall_mem_cons.mp reads
    rw [List.length_cons] at enough
    have others := ih next readLater bound (by omega)
    have chars : (separator.intercalate ((first :: next :: later).map text)).toList ++ rest =
        (text first).toList ++ (separator.toList ++
          ((separator.intercalate ((next :: later).map text)).toList ++ rest)) := by
      simp only [List.map_cons, String.intercalate_cons_cons, String.toList_append, List.append_assoc]
    rw [chars, readSeparated_next (readFirst _ (between _)) bound, others]
    rfl

/-- The length of a text is bound enough to read the items in it. -/
theorem readSeparated_text (filled : separator ≠ "") {items : List β} (present : items ≠ [])
    (reads : ∀ x ∈ items, ∀ rest, ends rest → item ((text x).toList ++ rest) = some (value x, rest))
    (between : ∀ rest, ends (separator.toList ++ rest)) {rest : List Char} (endsRest : ends rest)
    (stops : separator.toList.isPrefixOf? rest = none) :
    let cs := (separator.intercalate (items.map text)).toList ++ rest
    readSeparated separator item (cs.length + 1) cs = some (items.map value, rest) := by
  obtain ⟨first, later, rfl⟩ := List.exists_cons_of_ne_nil present
  refine readSeparated_intercalate first later reads between endsRest stops _ ?_
  have bound := length_le_intercalate filled (text first) (later.map text)
  rw [List.length_map] at bound
  rw [List.map_cons, List.length_append]
  omega

/-- Items are read back from the text of a list if they are not empty, each of them is read back where an item may
end, and the last one may end with the text. -/
theorem readToEnd_intercalate (filled : separator ≠ "") {items : List β} (present : ∀ x ∈ items, text x ≠ "")
    (reads : ∀ x ∈ items, ∀ rest, ends rest → item ((text x).toList ++ rest) = some (value x, rest))
    (between : ∀ rest, ends (separator.toList ++ rest)) (atEnd : ends []) :
    readToEnd separator item (separator.intercalate (items.map text)).toList = some (items.map value) := by
  cases items with
  | nil => rfl
  | cons first later =>
    have stops : separator.toList.isPrefixOf? [] = none := by
      obtain ⟨c, cs, shape⟩ := List.exists_cons_of_ne_nil (mt String.toList_eq_nil_iff.mp filled)
      rw [shape]
      rfl
    have read := readSeparated_text filled (List.cons_ne_nil first later) reads between atEnd stops
    rw [List.append_nil] at read
    have inside : (separator.intercalate ((first :: later).map text)).toList ≠ [] := by
      obtain ⟨c, member⟩ := List.exists_mem_of_ne_nil _
        (mt String.toList_eq_nil_iff.mp (present first List.mem_cons_self))
      have listed : text first ∈ (first :: later).map text := List.mem_map_of_mem List.mem_cons_self
      exact List.ne_nil_of_mem (mem_toList_intercalate listed member)
    obtain ⟨c, cs, chars⟩ := List.exists_cons_of_ne_nil inside
    rw [chars] at read ⊢
    rw [readToEnd, read]
    · rfl
    · exact List.cons_ne_nil c cs

end SqlDdl
