import SqlDdl.Json.Basic

/-! Fields of an object that are kept as they are. -/

namespace SqlDdl.Json

theorem mem_insertEntry {key : String} {value : Json} {entry : String × Json}
    {entries : List (String × Json)} (member : entry ∈ insertEntry key value entries) :
    entry = (key, value) ∨ entry ∈ entries := by
  induction entries with
  | nil => exact Or.inl (List.mem_singleton.mp member)
  | cons head entries ih =>
    simp only [insertEntry] at member
    split at member
    · exact List.mem_cons.mp member
    · split at member
      · exact (List.mem_cons.mp member).imp_right (List.mem_cons_of_mem _)
      · rcases List.mem_cons.mp member with same | later
        · exact Or.inr (same ▸ List.mem_cons_self ..)
        · exact (ih later).imp_right (List.mem_cons_of_mem _)

/-- The keys of the entries increase. -/
def KeysIncrease (entries : List (String × Json)) : Prop :=
  entries.Pairwise fun first second => first.1 < second.1

theorem KeysIncrease.insertEntry {entries : List (String × Json)} (sorted : KeysIncrease entries)
    (key : String) (value : Json) : KeysIncrease (insertEntry key value entries) := by
  induction entries with
  | nil => exact List.pairwise_singleton ..
  | cons head entries ih =>
    obtain ⟨below, rest⟩ := List.pairwise_cons.mp sorted
    simp only [Json.insertEntry]
    split
    · rename_i before
      refine List.pairwise_cons.mpr ⟨fun entry member => ?_, sorted⟩
      rcases List.mem_cons.mp member with same | later
      · exact same ▸ before
      · exact String.lt_trans before (below entry later)
    · rename_i notBefore
      split
      · rename_i same
        subst same
        exact List.pairwise_cons.mpr ⟨below, rest⟩
      · rename_i different
        refine List.pairwise_cons.mpr ⟨fun entry member => ?_, ih rest⟩
        rcases mem_insertEntry member with same | later
        · have order : head.1 ≤ key := String.not_lt.mp notBefore
          have apart : head.1 ≠ key := fun equal => different equal.symm
          rw [same]
          exact Std.lt_of_le_of_ne order apart
        · exact below entry later

theorem keysIncrease_sortEntries (entries : List (String × Json)) :
    KeysIncrease (sortEntries entries) := by
  suffices grow : ∀ sorted, KeysIncrease sorted → KeysIncrease
      (entries.foldl (fun sorted entry => insertEntry entry.1 entry.2 sorted) sorted) from
    grow [] List.Pairwise.nil
  induction entries with
  | nil => exact fun _ sorted => sorted
  | cons entry entries ih => exact fun _ sorted => ih _ (sorted.insertEntry entry.1 entry.2)

/-- Fields by increasing key. -/
structure Fields where
  entries : List (String × Json)
  sorted : KeysIncrease entries

/-- The fields of a list of entries. -/
def Fields.ofEntries (entries : List (String × Json)) : Fields :=
  ⟨sortEntries entries, keysIncrease_sortEntries entries⟩

/-- No fields. -/
def Fields.empty : Fields := ⟨[], List.Pairwise.nil⟩

instance : BEq Fields := ⟨fun first second => sameEntries first.entries second.entries⟩

end SqlDdl.Json
