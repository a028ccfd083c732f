import Mathlib.Data.Option.Defs
import Mathlib.Logic.Relator
import SqlDdl.Json.Depth
import SqlDdl.Proofs.Outcomes
import SqlDdl.Proofs.Shapes

/-! Decoders whose results follow the changes of a value, with one law for each way of building a decoder. -/

namespace SqlDdl

variable {α β : Type}

/-- Where a value is decoded, it still is after a change, and the results are related. -/
def Decoder.Respects (change : Json → Json → Prop) (related : α → α → Prop) (decoder : Decoder α) : Prop :=
  ∀ (json json' : Json) (value : α), change json json' → decoder json = .ok value →
    ∃ value', decoder json' = .ok value' ∧ related value value'

/-- The same for a record, where `change` tells what may become of the value of a field. -/
structure Record.Respects (change : Field → Option Json → Option Json → Prop) (fields : List Field)
    (related : α → α → Prop) (record : Record α) : Prop where
  names : record.names = fields.map Field.name
  read : ∀ (byName : Bool) (values values' : String → Option Json) (value : α),
    (∀ field ∈ fields, change field (values field.name) (values' field.name)) →
      record.read byName values = .ok value →
        ∃ value', record.read byName values' = .ok value' ∧ related value value'

/-- A change of one item of an array. -/
inductive Json.InItem (change : Json → Json → Prop) : Json → Json → Prop where
  | item {value value' : Json} {before after : List Json} (inner : change value value') :
      InItem change (.array (before ++ value :: after)) (.array (before ++ value' :: after))

/-- A change of a node that changes each of its fields in some way at most. -/
structure Json.InFields (change : Field → Option Json → Option Json → Prop) (fields : List Field)
    (json json' : Json) : Prop where
  isNested : json.isNested = true
  ofEntries : ∀ entries, json = .object entries → ∃ entries', json' = .object entries' ∧
    ∀ field ∈ fields, change field (entries.lookup field.name) (entries'.lookup field.name)
  ofItems : ∀ items, json = .array items → ∃ items', json' = .array items' ∧ items'.length = items.length ∧
    ∀ field ∈ fields, change field (((fields.map Field.name).zip items).lookup field.name)
      (((fields.map Field.name).zip items').lookup field.name)

/-- Where the value of one entry is replaced, each look-up finds what it did, or that value and its
replacement. -/
theorem lookup_replace {γ : Type} {name : String} {value value' : γ} (before after : List (String × γ))
    (key : String) :
    (before ++ (name, value') :: after).lookup key = (before ++ (name, value) :: after).lookup key ∨
      key = name ∧ (before ++ (name, value) :: after).lookup key = some value ∧
        (before ++ (name, value') :: after).lookup key = some value' := by
  rw [List.lookup_append, List.lookup_append]
  cases before.lookup key with
  | some => exact Or.inl rfl
  | none =>
    by_cases same : key = name
    · subst same
      rw [List.lookup_cons_self, List.lookup_cons_self]
      exact Or.inr ⟨rfl, rfl, rfl⟩
    · have test : (key == name) = false := beq_eq_false_iff_ne.mpr same
      rw [List.lookup_cons, List.lookup_cons, test]
      exact Or.inl rfl

namespace Json.InFields

variable (change : Field → Option Json → Option Json → Prop) {fields : List Field} {field : Field}
  {value value' : Json}

/-- Of fields with distinct names, only the one is changed whose value is replaced. -/
theorem change_replace (distinct : (fields.map Field.name).Nodup) (declared : field ∈ fields)
    (refl : ∀ other found, change other found found) (inner : change field (some value) (some value'))
    (before after : List (String × Json)) {other : Field} (member : other ∈ fields) :
    change other ((before ++ (field.name, value) :: after).lookup other.name)
      ((before ++ (field.name, value') :: after).lookup other.name) := by
  rcases lookup_replace before after other.name with kept | ⟨same, found, found'⟩
  · rw [kept]
    exact refl _ _
  · obtain rfl := List.inj_on_of_nodup_map distinct member declared same
    rw [found, found']
    exact inner

theorem replace_entry (distinct : (fields.map Field.name).Nodup) (declared : field ∈ fields)
    (refl : ∀ other found, change other found found) (inner : change field (some value) (some value'))
    (before after : List (String × Json)) :
    InFields change fields (.object (before ++ (field.name, value) :: after))
      (.object (before ++ (field.name, value') :: after)) := by
  refine ⟨rfl, fun entries same => ?_, fun items same => ?_⟩
  · cases same
    exact ⟨_, rfl, fun other => change_replace change distinct declared refl inner before after⟩
  · cases same

theorem replace_item {front back : List Field} {before : List Json}
    (distinct : ((front ++ field :: back).map Field.name).Nodup) (place : front.length = before.length)
    (refl : ∀ other found, change other found found) (inner : change field (some value) (some value'))
    (after : List Json) :
    InFields change (front ++ field :: back) (.array (before ++ value :: after))
      (.array (before ++ value' :: after)) := by
  have zipped : ∀ json : Json, ((front ++ field :: back).map Field.name).zip (before ++ json :: after) =
      (front.map Field.name).zip before ++ (field.name, json) :: (back.map Field.name).zip after := by
    intro json
    rw [List.map_append, List.zip_append (by rw [List.length_map, place]), List.map_cons, List.zip_cons_cons]
  refine ⟨rfl, fun entries same => ?_, fun items same => ?_⟩
  · cases same
  · cases same
    refine ⟨_, rfl, by simp only [List.length_append, List.length_cons], fun other member => ?_⟩
    rw [zipped, zipped]
    exact change_replace change distinct (List.mem_append_right _ List.mem_cons_self) refl inner _ _ member

end Json.InFields

namespace Decoder.Respects

variable {change : Json → Json → Prop} {related other : α → α → Prop} {decoder : Decoder α}

theorem mono (respects : Respects change related decoder)
    (weaker : ∀ value value', related value value' → other value value') : Respects change other decoder := by
  intro json json' value changed decoded
  obtain ⟨value', found, relation⟩ := respects _ _ _ changed decoded
  exact ⟨value', found, weaker _ _ relation⟩

theorem list (refl : ∀ value, related value value) (respects : Respects change related decoder) :
    Respects (Json.InItem change) (List.Forall₂ related) (Decoder.list decoder) := by
  have unchanged : ∀ values : List α, List.Forall₂ related values values := fun values =>
    List.forall₂_same.mpr fun value _ => refl value
  rintro _ _ values ⟨inner⟩ decoded
  rename_i first second before after
  simp only [Decoder.list] at decoded ⊢
  -- The items before and after the changed one are decoded as they were.
  induction before generalizing values with
  | nil =>
    obtain ⟨value, later, found, rest, rfl⟩ := mapM_cons_eq_ok.mp decoded
    obtain ⟨value', found', relation⟩ := respects _ _ _ inner found
    exact ⟨value' :: later, mapM_cons_eq_ok.mpr ⟨value', later, found', rest, rfl⟩,
      .cons relation (unchanged later)⟩
  | cons head before ih =>
    obtain ⟨value, later, found, rest, rfl⟩ := mapM_cons_eq_ok.mp decoded
    obtain ⟨later', rest', relation⟩ := ih _ rest
    exact ⟨value :: later', mapM_cons_eq_ok.mpr ⟨value, later', found, rest', rfl⟩,
      .cons (refl value) relation⟩

/-- A change of arrays and objects leaves `null` alone. -/
theorem nullable (nested : ∀ json json', change json json' → json.isNested = true ∧ json'.isNested = true)
    (respects : Respects change related decoder) :
    Respects change (Option.Rel related) (Decoder.nullable decoder) := by
  intro json json' value? changed decoded
  have present : ∀ found : Json, found.isNested = true →
      Decoder.nullable decoder found = (decoder found).map some := by
    intro found nested
    cases found with
    | null => cases nested
    | _ => rfl
  obtain ⟨before, after⟩ := nested json json' changed
  rw [present json before] at decoded
  obtain ⟨value, found, rfl⟩ := map_eq_ok.mp decoded
  obtain ⟨value', found', relation⟩ := respects _ _ _ changed found
  exact ⟨some value', by rw [present json' after, found']; rfl, .some relation⟩

/-- Decoders that are made of layers respect a change if each layer does where the decoders inside it do. -/
theorem of_layers {ι : Type} {bounded : ι → Nat → Decoder α} {layer : (ι → Decoder α) → ι → Decoder α}
    (layered : Layered bounded layer)
    (step : ∀ inner : ι → Decoder α, (∀ place, Respects change related (inner place)) →
      ∀ place, Respects change related (layer inner place)) (place : ι) :
    Respects change related fun json => bounded place json.depth json := by
  have each : ∀ depth place, Respects change related (bounded place depth) := by
    intro depth
    induction depth with
    | zero => exact fun _ _ _ _ _ decoded => absurd decoded layered.refused
    | succ depth ih => exact fun place => layered.succ place depth ▸ step _ ih place
  intro json json' value changed decoded
  -- One bound serves the value before the change and the one after it.
  have before : bounded place (max json.depth json'.depth) json = .ok value :=
    (layered.bounded_eq (Nat.le_max_left ..) (Nat.le_refl _)).trans decoded
  obtain ⟨value', found, relation⟩ := each _ place _ _ _ changed before
  exact ⟨value', (layered.bounded_eq (Nat.le_refl _) (Nat.le_max_right ..)).trans found, relation⟩

/-- Where an entry tells which part of a value is decoded, what the part respects is respected by the whole, as
long as the change keeps that entry. -/
theorem chosen {key : String} {tag : Json} {whole : Decoder β} {build : α → β} {relatedTo : β → β → Prop}
    (selects : ∀ json : Json, json.get? key = some tag → whole json = (decoder json).map build)
    (respects : Respects change related decoder)
    (carries : ∀ value value', related value value' → relatedTo (build value) (build value'))
    {json json' : Json} {value : β} (changed : change json json') (found : json.get? key = some tag)
    (kept : json'.get? key = some tag) (decoded : whole json = .ok value) :
    ∃ value', whole json' = .ok value' ∧ relatedTo value value' := by
  rw [selects json found] at decoded
  obtain ⟨part, decodedPart, rfl⟩ := map_eq_ok.mp decoded
  obtain ⟨part', decodedAfter, relation⟩ := respects _ _ _ changed decodedPart
  rw [selects json' kept]
  exact ⟨build part', map_eq_ok.mpr ⟨part', decodedAfter, rfl⟩, carries _ _ relation⟩

end Decoder.Respects

namespace Record

theorem ap_eq_ok {function : Record (α → β)} {argument : Record α} {byName : Bool}
    {values : String → Option Json} {result : β} :
    (function <*> argument).read byName values = .ok result ↔
      ∃ f value, function.read byName values = .ok f ∧ argument.read byName values = .ok value ∧
        f value = result := by
  show (Record.ap function argument).read byName values = .ok result ↔ _
  simp only [Record.ap]
  cases function.read byName values with
  | error => cases argument.read byName values <;> simp
  | ok f => cases argument.read byName values <;> simp

theorem ofItems_eq_ok {record : Record α} {items : List Json} {value : α} :
    record.ofItems items = .ok value ↔
      record.read false (fun name => (record.names.zip items).lookup name) = .ok value ∧
        items.length ≤ record.names.length := by
  simp only [Record.ofItems]
  split
  · rename_i found
    simp [found]
  · rename_i found
    simp [found]
  · rename_i found
    rw [found]
    split <;> simp [*]

end Record

namespace Record.Respects

variable {change : Field → Option Json → Option Json → Prop} {fields others : List Field}
  {related : α → α → Prop} {relatedTo : β → β → Prop}

theorem map {f : α → β} {record : Record α} (respects : Respects change fields related record)
    (carries : ∀ value value', related value value' → relatedTo (f value) (f value')) :
    Respects change fields relatedTo (f <$> record) := by
  refine ⟨respects.names, fun byName values values' value changed read => ?_⟩
  obtain ⟨value, found, rfl⟩ := map_eq_ok.mp read
  obtain ⟨value', found', relation⟩ := respects.read _ _ _ _ changed found
  exact ⟨f value', map_eq_ok.mpr ⟨value', found', rfl⟩, carries _ _ relation⟩

theorem ap {function : Record (α → β)} {argument : Record α}
    (first : Respects change fields (Relator.LiftFun related relatedTo) function)
    (second : Respects change others related argument) :
    Respects change (fields ++ others) relatedTo (function <*> argument) := by
  refine ⟨?_, fun byName values values' value changed read => ?_⟩
  · rw [List.map_append, ← first.names, ← second.names]
    rfl
  · obtain ⟨f, value, foundFirst, foundSecond, rfl⟩ := ap_eq_ok.mp read
    obtain ⟨f', found', carries⟩ :=
      first.read _ _ _ _ (fun field member => changed field (List.mem_append_left _ member)) foundFirst
    obtain ⟨value', other', relation⟩ :=
      second.read _ _ _ _ (fun field member => changed field (List.mem_append_right _ member)) foundSecond
    exact ⟨f' value', ap_eq_ok.mpr ⟨f', value', found', other', rfl⟩, carries relation⟩

/-- An argument that stays the same is given to functions that are related for every argument. -/
theorem apSame {function : Record (α → β)} {argument : Record α}
    (first : Respects change fields (fun f f' => ∀ value, relatedTo (f value) (f' value)) function)
    (second : Respects change others Eq argument) :
    Respects change (fields ++ others) relatedTo (function <*> argument) := by
  refine ap ⟨first.names, fun byName values values' value changed read => ?_⟩ second
  obtain ⟨f', found, relation⟩ := first.read _ _ _ _ changed read
  exact ⟨f', found, fun value value' same => same ▸ relation value⟩

/-- A record of one field. `absent` is what is read if there is no value. -/
theorem single {field : Field} {item : Decoder α} {absent : Except Fault α}
    (each : ∀ before after, change field before after → ∀ value,
      before.elim absent (fun json => (item json).mapError (Fault.refused field.name)) = .ok value →
        ∃ value', after.elim absent (fun json => (item json).mapError (Fault.refused field.name)) =
          .ok value' ∧ related value value') :
    Respects change [field] related ⟨[field.name], fun _ values =>
      match values field.name with
      | some json => (item json).mapError (Fault.refused field.name)
      | none => absent⟩ := by
  have elim : ∀ found : Option Json, (match found with
      | some json => (item json).mapError (Fault.refused field.name)
      | none => absent) = found.elim absent fun json => (item json).mapError (Fault.refused field.name) :=
    fun found => by cases found <;> rfl
  refine ⟨rfl, fun byName values values' value changed read => ?_⟩
  have changed := changed field (List.mem_singleton_self _)
  simp only [elim] at read ⊢
  exact each _ _ changed value read

theorem ofEntries {record : Record α} (respects : Respects change fields related record)
    {entries entries' : List (String × Json)} {value : α}
    (changed : ∀ field ∈ fields, change field (entries.lookup field.name) (entries'.lookup field.name))
    (decoded : record.ofEntries entries = .ok value) :
    ∃ value', record.ofEntries entries' = .ok value' ∧ related value value' := by
  obtain ⟨value', found, relation⟩ :=
    respects.read _ _ (entries'.lookup ·) _ changed (mapError_eq_ok.mp decoded)
  exact ⟨value', mapError_eq_ok.mpr found, relation⟩

theorem ofItems {record : Record α} (respects : Respects change fields related record)
    {items items' : List Json} {value : α} (length : items'.length = items.length)
    (changed : ∀ field ∈ fields, change field (((fields.map Field.name).zip items).lookup field.name)
      (((fields.map Field.name).zip items').lookup field.name))
    (decoded : record.ofItems items = .ok value) :
    ∃ value', record.ofItems items' = .ok value' ∧ related value value' := by
  obtain ⟨read, fits⟩ := ofItems_eq_ok.mp decoded
  rw [respects.names] at read
  obtain ⟨value', found, relation⟩ :=
    respects.read _ _ (((fields.map Field.name).zip items').lookup ·) _ changed read
  exact ⟨value', ofItems_eq_ok.mpr ⟨respects.names ▸ found, length ▸ fits⟩, relation⟩

/-- A decoder of a node respects the changes of its fields. -/
theorem decoder {name : String} {record : Record α} (respects : Respects change fields related record) :
    Decoder.Respects (Json.InFields change fields) related (record.decoder name) := by
  intro json json' value changed decoded
  cases json with
  | object entries =>
    obtain ⟨entries', rfl, each⟩ := changed.ofEntries entries rfl
    exact respects.ofEntries each decoded
  | array items =>
    obtain ⟨items', rfl, length, each⟩ := changed.ofItems items rfl
    exact respects.ofItems length each decoded
  | _ => cases changed.isNested

end Record.Respects

end SqlDdl
