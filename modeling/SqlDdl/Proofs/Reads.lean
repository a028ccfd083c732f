import SqlDdl.Proofs.Encoding
import SqlDdl.Proofs.Keeps
import SqlDdl.Proofs.SortedEntries

/-! Records read the fields of the nodes that they are for, with one law for each way of building a record. -/

namespace SqlDdl

variable {α β : Type}

namespace Json

theorem lookup_cons_eq_ite {γ : Type} (name key : String) (value : γ) (entries : List (String × γ)) :
    ((key, value) :: entries).lookup name = if name = key then some value else entries.lookup name := by
  rw [List.lookup_cons]
  by_cases same : name = key
  · rw [if_pos same, beq_iff_eq.mpr same]
  · rw [if_neg same, beq_eq_false_iff_ne.mpr same]

theorem lookup_eq_none_of_not_mem {γ : Type} {name : String} {entries : List (String × γ)}
    (fresh : name ∉ entries.map Prod.fst) : entries.lookup name = none :=
  List.lookup_eq_none_iff.mpr fun _ member => bne_iff_ne.mpr fun same =>
    fresh (List.mem_map.mpr ⟨_, member, same.symm⟩)

theorem lookup_insertEntry (name key : String) (value : Json) (entries : List (String × Json)) :
    (insertEntry key value entries).lookup name =
      if name = key then some value else entries.lookup name := by
  induction entries with
  | nil => exact lookup_cons_eq_ite name key value []
  | cons head entries ih =>
    rw [insertEntry]
    split
    · exact lookup_cons_eq_ite name key value _
    · split
      · rename_i same
        rw [lookup_cons_eq_ite, lookup_cons_eq_ite, ← same]
        split
        · rfl
        · rfl
      · rename_i other
        rw [lookup_cons_eq_ite, lookup_cons_eq_ite, ih]
        by_cases atHead : name = head.1
        · rw [if_pos atHead, if_pos atHead, if_neg fun same => other (same.symm.trans atHead)]
        · rw [if_neg atHead, if_neg atHead]

/-- Fields are found among the sorted ones as they are if their names are distinct. -/
theorem lookup_sortEntries {entries : List (String × Json)} (distinct : (entries.map Prod.fst).Nodup)
    (name : String) : (sortEntries entries).lookup name = entries.lookup name := by
  suffices grow : ∀ sorted : List (String × Json),
      (entries.foldl (fun sorted entry => insertEntry entry.1 entry.2 sorted) sorted).lookup name =
        (entries.lookup name).or (sorted.lookup name) from (grow []).trans (Option.or_none)
  induction entries with
  | nil => exact fun sorted => Option.none_or.symm
  | cons head entries ih =>
    intro sorted
    obtain ⟨fresh, later⟩ := List.nodup_cons.mp distinct
    rw [List.foldl_cons, ih later, lookup_insertEntry, lookup_cons_eq_ite]
    by_cases same : name = head.1
    · rw [if_pos same, if_pos same, lookup_eq_none_of_not_mem (same ▸ fresh)]
      rfl
    · rw [if_neg same, if_neg same]

theorem lookup_present {members : List (String × Option Json)} (distinct : (members.map Prod.fst).Nodup)
    (name : String) : (present members).lookup name = (members.lookup name).join := by
  induction members with
  | nil => rfl
  | cons head members ih =>
    obtain ⟨fresh, later⟩ := List.nodup_cons.mp distinct
    have rest := ih later
    obtain ⟨key, value?⟩ := head
    cases value? with
    | none =>
      have front : present ((key, none) :: members) = present members := rfl
      rw [front, rest, lookup_cons_eq_ite]
      split
      · rename_i same
        rw [lookup_eq_none_of_not_mem (same ▸ fresh)]
        rfl
      · rfl
    | some value =>
      have front : present ((key, some value) :: members) = (key, value) :: present members := rfl
      rw [front, lookup_cons_eq_ite, lookup_cons_eq_ite, rest]
      split
      · rfl
      · rfl

theorem present_sublist (members : List (String × Option Json)) :
    ((present members).map Prod.fst).Sublist (members.map Prod.fst) := by
  induction members with
  | nil => exact .slnil
  | cons head members ih =>
    obtain ⟨key, value?⟩ := head
    cases value? with
    | none => exact ih.cons key
    | some value => exact ih.cons_cons key

/-- The fields of an object are found in it if their names are distinct. -/
theorem lookup_ofMembers {members : List (String × Option Json)} (distinct : (members.map Prod.fst).Nodup)
    (name : String) : (sortEntries (present members)).lookup name = (members.lookup name).join := by
  rw [lookup_sortEntries (distinct.sublist (present_sublist members)), lookup_present distinct]

section Tagged

variable {key tag : String} {members : List (String × Option Json)}

theorem get?_tagged (distinct : (key :: members.map Prod.fst).Nodup) :
    (tagged key tag members).get? key = some (.string tag) := by
  have all : (((key, some (.string tag)) :: members).map Prod.fst).Nodup := distinct
  have found := lookup_ofMembers all key
  rwa [List.lookup_cons_self] at found

/-- The other fields are found beside the text that tells which node it is. -/
theorem lookup_tagged (distinct : (key :: members.map Prod.fst).Nodup) {name : String} (other : name ≠ key) :
    (sortEntries (present ((key, some (.string tag)) :: members))).lookup name =
      (members.lookup name).join := by
  have all : (((key, some (.string tag)) :: members).map Prod.fst).Nodup := distinct
  rw [lookup_ofMembers all, lookup_cons_eq_ite, if_neg other]

end Tagged

end Json

/-- A decoder gives back a value from its JSON, which is not `null`. -/
def Decoder.Inverts (decoder : Decoder α) (encode : α → Json) (value : α) : Prop :=
  (encode value).isNull = false ∧ decoder (encode value) = .ok value

/-- A record reads a value where it finds the fields that are listed, of which some may be absent. -/
def Record.Reads (record : Record α) (members : List (String × Option Json)) (value : α) : Prop :=
  ∀ byName values, (∀ name ∈ record.names, values name = (members.lookup name).join) →
    record.read byName values = .ok value

theorem Decoder.Inverts.string (value : String) : Decoder.string.Inverts .string value := ⟨rfl, rfl⟩

theorem Decoder.Inverts.bool (value : Bool) : Decoder.bool.Inverts .bool value := ⟨rfl, rfl⟩

theorem Decoder.Inverts.list {decoder : Decoder α} {encode : α → Json} {items : List α}
    (inverts : ∀ item ∈ items, decoder.Inverts encode item) :
    (Decoder.list decoder).Inverts (.ofList encode) items := by
  refine ⟨rfl, ?_⟩
  show (items.map encode).mapM decoder = .ok items
  induction items with
  | nil => rfl
  | cons head items ih =>
    obtain ⟨first, later⟩ := List.forall_mem_cons.mp inverts
    exact mapM_cons_eq_ok.mpr ⟨head, items, first.2, ih later, rfl⟩

namespace Record.Reads

variable {members : List (String × Option Json)} {name : String} {item : Decoder α} {encode : α → Json}
  {value : α}

theorem pure : Reads (Pure.pure value) members value := fun _ _ _ => rfl

theorem map {f : α → β} {record : Record α} (reads : Reads record members value) :
    Reads (f <$> record) members (f value) :=
  fun byName values found => map_eq_ok.mpr ⟨value, reads byName values found, rfl⟩

theorem ap {f : α → β} {function : Record (α → β)} {argument : Record α} (first : Reads function members f)
    (second : Reads argument members value) : Reads (function <*> argument) members (f value) := by
  intro byName values found
  have early := first byName values fun name member => found name (List.mem_append_left _ member)
  have late := second byName values fun name member => found name (List.mem_append_right _ member)
  exact ap_eq_ok.mpr ⟨f, value, early, late, rfl⟩

theorem field (listed : members.lookup name = some (some (encode value)))
    (inverts : item.Inverts encode value) : Reads (Record.field name item) members value := by
  intro byName values found
  simp only [Record.field, found name List.mem_cons_self, listed, Option.join_some, inverts.2]
  rfl

theorem fieldOr {absent : α} (listed : members.lookup name = some (some (encode value)))
    (inverts : item.Inverts encode value) : Reads (Record.fieldOr name absent item) members value := by
  intro byName values found
  simp only [Record.fieldOr, found name List.mem_cons_self, listed, Option.join_some, inverts.2]
  rfl

theorem optional {value? : Option α} (listed : members.lookup name = some (value?.map encode))
    (inverts : ∀ value ∈ value?, item.Inverts encode value) :
    Reads (Record.optional name item) members value? := by
  intro byName values found
  simp only [Record.optional, Record.fieldOr, found name List.mem_cons_self, listed, Option.join_some]
  cases value? with
  | none => rfl
  | some value =>
    obtain ⟨notNull, decoded⟩ := inverts value rfl
    have nullable : Decoder.nullable item (encode value) = (item (encode value)).map some := by
      cases shape : encode value with
      | null =>
        rw [shape] at notNull
        cases notNull
      | _ => rfl
    simp only [Option.map_some, nullable, decoded]
    rfl

theorem ofEntries {record : Record α} (reads : Reads record members value) {entries : List (String × Json)}
    (found : ∀ name ∈ record.names, entries.lookup name = (members.lookup name).join) :
    record.ofEntries entries = .ok value :=
  mapError_eq_ok.mpr (reads true _ found)

theorem ofMembers {record : Record α} (reads : Reads record members value)
    (distinct : (members.map Prod.fst).Nodup) :
    record.ofEntries (Json.sortEntries (Json.present members)) = .ok value :=
  reads.ofEntries fun name _ => Json.lookup_ofMembers distinct name

/-- A node is decoded from its declared fields. -/
theorem inverts (node : Node) {typeName : String} {record : Record α}
    {members : α → List (String × Option Json)}
    (reads : Reads record (members value) value)
    (declared : (members value).map Prod.fst = node.fields.map Field.name) :
    (record.decoder typeName).Inverts (fun value => .ofMembers (members value)) value :=
  ⟨rfl, reads.ofMembers (declared ▸ node.fields_nodup)⟩

end Record.Reads

end SqlDdl
