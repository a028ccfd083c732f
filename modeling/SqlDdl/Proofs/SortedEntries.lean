import SqlDdl.Json.Fields

/-! Entries sorted by their keys: what is among them, what is left out of them, and what is found in them. -/

namespace SqlDdl.Json

variable {key : String} {value : Json} {entries : List (String × Json)}

theorem mem_sortEntries {entry : String × Json} (member : entry ∈ sortEntries entries) :
    entry ∈ entries := by
  suffices grow : ∀ sorted : List (String × Json),
      entry ∈ entries.foldl (fun sorted entry => insertEntry entry.1 entry.2 sorted) sorted →
        entry ∈ sorted ∨ entry ∈ entries from (grow [] member).resolve_left List.not_mem_nil
  clear member
  induction entries with
  | nil => exact fun sorted member => Or.inl member
  | cons head entries ih =>
    intro sorted member
    rcases ih _ member with inserted | later
    · rcases mem_insertEntry inserted with same | before
      · exact Or.inr (same ▸ List.mem_cons_self)
      · exact Or.inl before
    · exact Or.inr (List.mem_cons_of_mem _ later)

theorem insertEntry_of_below (below : ∀ entry ∈ entries, key < entry.1) :
    insertEntry key value entries = (key, value) :: entries := by
  cases entries with
  | nil => rfl
  | cons head entries => rw [insertEntry, if_pos (below head List.mem_cons_self)]

theorem insertEntry_of_above (above : ∀ entry ∈ entries, entry.1 < key) :
    insertEntry key value entries = entries ++ [(key, value)] := by
  induction entries with
  | nil => rfl
  | cons head entries ih =>
    obtain ⟨first, later⟩ := List.forall_mem_cons.mp above
    rw [insertEntry, if_neg (String.lt_asymm first), if_neg (String.ne_of_lt first).symm, ih later,
      List.cons_append]

/-- Entries whose keys increase are sorted already. -/
theorem sortEntries_of_keysIncrease (sorted : KeysIncrease entries) : sortEntries entries = entries := by
  suffices grow : ∀ front, KeysIncrease (front ++ entries) →
      entries.foldl (fun sorted entry => insertEntry entry.1 entry.2 sorted) front = front ++ entries from
    grow [] sorted
  clear sorted
  induction entries with
  | nil => exact fun front _ => (List.append_nil front).symm
  | cons head entries ih =>
    intro front sorted
    have above : ∀ entry ∈ front, entry.1 < head.1 := fun entry member =>
      (List.pairwise_append.mp sorted).2.2 entry member head List.mem_cons_self
    have same : front ++ head :: entries = front ++ [head] ++ entries := List.append_cons ..
    rw [List.foldl_cons, insertEntry_of_above above, same]
    exact ih _ (same ▸ sorted)

theorem Fields.ofEntries_entries (fields : Fields) : ofEntries fields.entries = fields := by
  obtain ⟨entries, sorted⟩ := fields
  simp only [ofEntries, sortEntries_of_keysIncrease sorted]

theorem KeysIncrease.nodup (sorted : KeysIncrease entries) : (entries.map Prod.fst).Nodup :=
  List.pairwise_map.mpr (sorted.imp fun below => String.ne_of_lt below)

section Filter

variable (wanted : String → Bool)

theorem filter_insertEntry (sorted : KeysIncrease entries) :
    (insertEntry key value entries).filter (fun entry => wanted entry.1) =
      if wanted key then insertEntry key value (entries.filter fun entry => wanted entry.1)
      else entries.filter fun entry => wanted entry.1 := by
  induction entries with
  | nil =>
    simp only [insertEntry, List.filter_cons, List.filter_nil]
  | cons head entries ih =>
    obtain ⟨below, later⟩ := List.pairwise_cons.mp sorted
    by_cases before : key < head.1
    · have above : ∀ entry ∈ (head :: entries).filter fun entry => wanted entry.1, key < entry.1 := by
        intro entry member
        rcases List.mem_cons.mp (List.mem_filter.mp member).1 with rfl | member
        · exact before
        · exact String.lt_trans before (below entry member)
      rw [insertEntry, if_pos before, List.filter_cons, insertEntry_of_below above]
    · by_cases same : key = head.1
      · rw [insertEntry, if_neg before, if_pos same, List.filter_cons, List.filter_cons, ← same]
        cases wanted key with
        | true => simp only [if_true, insertEntry, if_neg before, if_pos same]
        | false => rfl
      · have rest := ih later
        rw [insertEntry, if_neg before, if_neg same, List.filter_cons, List.filter_cons, rest]
        cases wanted head.1 with
        | true =>
          rw [if_pos rfl, if_pos rfl, insertEntry, if_neg before, if_neg same]
          split
          · rfl
          · rfl
        | false => rfl

/-- Entries can be left out by their keys before or after they are sorted. -/
theorem filter_sortEntries :
    (sortEntries entries).filter (fun entry => wanted entry.1) =
      sortEntries (entries.filter fun entry => wanted entry.1) := by
  suffices grow : ∀ sorted : List (String × Json), KeysIncrease sorted →
      (entries.foldl (fun sorted entry => insertEntry entry.1 entry.2 sorted) sorted).filter
          (fun entry => wanted entry.1) =
        (entries.filter fun entry => wanted entry.1).foldl
          (fun sorted entry => insertEntry entry.1 entry.2 sorted)
          (sorted.filter fun entry => wanted entry.1) from grow [] List.Pairwise.nil
  induction entries with
  | nil => exact fun _ _ => rfl
  | cons head entries ih =>
    intro sorted increase
    have rest := ih _ (increase.insertEntry head.1 head.2)
    rw [List.foldl_cons, rest, filter_insertEntry wanted increase, List.filter_cons]
    cases wanted head.1 <;> rfl

end Filter

/-- An entry that is not wanted makes no difference to what is found first. -/
theorem find?_sortEntries_insert {before after : List (String × Json)} {wanted : String × Json → Bool}
    (absent : (before ++ after).lookup key = none) (unwanted : wanted (key, value) = false) :
    (sortEntries (before ++ (key, value) :: after)).find? wanted =
      (sortEntries (before ++ after)).find? wanted := by
  have others : ∀ entry ∈ before ++ after, entry.1 ≠ key := by
    intro entry member same
    have apart := List.lookup_eq_none_iff.mp absent entry member
    rw [same, bne_self_eq_false] at apart
    cases apart
  have without : (before ++ (key, value) :: after).filter (fun entry => entry.1 != key) =
      before ++ after := by
    rw [List.filter_append, List.filter_cons, if_neg (by rw [bne_self_eq_false]; exact nofun),
      ← List.filter_append]
    exact List.filter_eq_self.mpr fun entry member => bne_iff_ne.mpr (others entry member)
  have sorted : (sortEntries (before ++ (key, value) :: after)).filter (fun entry => entry.1 != key) =
      sortEntries (before ++ after) := by
    rw [filter_sortEntries fun name => name != key, without]
  rw [← sorted, ← List.head?_filter, ← List.head?_filter, List.filter_filter]
  refine congrArg List.head? (List.filter_congr fun entry member => ?_)
  by_cases same : entry.1 = key
  · have only : entry = (key, value) := by
      rcases List.mem_append.mp (mem_sortEntries member) with early | late
      · exact absurd same (others entry (List.mem_append_left _ early))
      · rcases List.mem_cons.mp late with found | late
        · exact found
        · exact absurd same (others entry (List.mem_append_right _ late))
    rw [only, unwanted, Bool.false_and]
  · rw [bne_iff_ne.mpr same, Bool.and_true]

section Distinct

theorem insertEntry_perm (fresh : key ∉ entries.map Prod.fst) :
    (insertEntry key value entries).Perm ((key, value) :: entries) := by
  induction entries with
  | nil => exact .refl _
  | cons head entries ih =>
    obtain ⟨other, later⟩ := not_or.mp fun either => fresh (List.mem_cons.mpr either)
    rw [insertEntry, if_neg other]
    split
    · exact .refl _
    · exact ((ih later).cons head).trans (.swap ..)

/-- Entries with distinct keys are put in order, and none of them is lost. -/
theorem sortEntries_perm (distinct : (entries.map Prod.fst).Nodup) : (sortEntries entries).Perm entries := by
  suffices grow : ∀ sorted : List (String × Json), ((entries ++ sorted).map Prod.fst).Nodup →
      (entries.foldl (fun sorted entry => insertEntry entry.1 entry.2 sorted) sorted).Perm
        (entries ++ sorted) by
    have all := grow [] (by rwa [List.append_nil])
    rwa [List.append_nil] at all
  clear distinct
  induction entries with
  | nil => exact fun sorted _ => .refl sorted
  | cons head entries ih =>
    intro sorted distinct
    have step : (entries ++ insertEntry head.1 head.2 sorted).Perm (head :: (entries ++ sorted)) := by
      refine ((insertEntry_perm fun found => ?_).append_left entries).trans List.perm_middle
      exact (List.nodup_cons.mp distinct).1 (List.map_append ▸ List.mem_append_right _ found)
    exact (ih _ ((step.map Prod.fst).nodup_iff.mpr distinct)).trans step

/-- The order in which entries are listed is lost when they are sorted. -/
theorem sortEntries_congr {others : List (String × Json)} (distinct : (entries.map Prod.fst).Nodup)
    (reordered : others.Perm entries) : sortEntries others = sortEntries entries := by
  refine List.Perm.eq_of_pairwise (fun first second _ _ below above => ?_) (keysIncrease_sortEntries others)
    (keysIncrease_sortEntries entries) ?_
  · exact absurd above (String.lt_asymm below)
  · have same := (reordered.map Prod.fst).nodup_iff.mpr distinct
    exact (sortEntries_perm same).trans (reordered.trans (sortEntries_perm distinct).symm)

end Distinct

end SqlDdl.Json
