import SqlDdl.Proofs.Insertion
import SqlDdl.Proofs.Respects

/-! Decoders for which an insertion makes no difference, with one law for each way of building a decoder. -/

namespace SqlDdl

variable {α β : Type} {rule : Rule}

/-- Where a value is decoded, it still is after an insertion, and the results are related. -/
def Decoder.Keeps (rule : Rule) (shape : Shape) (related : α → α → Prop) (decoder : Decoder α) : Prop :=
  ∀ (json json' : Json) (value : α), Insertion rule shape json json' → decoder json = .ok value →
    ∃ value', decoder json' = .ok value' ∧ related value value'

/-- The same for a record whose fields are kept. -/
structure Record.Keeps (rule : Rule) (fields : List Field) (related : α → α → Prop)
    (record : Record α) : Prop where
  names : record.names = fields.map Field.name
  read : ∀ (byName : Bool) (values values' : String → Option Json) (value : α),
    (∀ field ∈ fields, field.Kept rule (values field.name) (values' field.name)) →
      record.read byName values = .ok value →
        ∃ value', record.read byName values' = .ok value' ∧ related value value'

namespace Decoder

theorem choice_pair {name : String} {first second : Decoder α} {json : Json} {value : α} :
    choice name [first, second] json = .ok value ↔
      first json = .ok value ∨ (first json).toOption = none ∧ second json = .ok value := by
  simp only [choice, List.findSome?_cons, List.findSome?_nil]
  cases first json with
  | ok => simp [Except.toOption]
  | error => cases second json <;> simp [Except.toOption]

/-- Whether a decoder takes neither arrays nor objects. -/
def IsScalar (decoder : Decoder α) : Prop :=
  (∀ entries, (decoder (.object entries)).toOption = none) ∧
    ∀ items, (decoder (.array items)).toOption = none

/-- Arrays and objects are left to the last decoder of a choice. -/
theorem choice_last {name : String} {scalars : List (Decoder α)} {last : Decoder α}
    (plain : ∀ decoder ∈ scalars, decoder.IsScalar) {json : Json} (nested : json.isNested = true) {value : α} :
    choice name (scalars ++ [last]) json = .ok value ↔ last json = .ok value := by
  have refused : ∀ decoder ∈ scalars, (decoder json).toOption = none := by
    intro decoder member
    cases json with
    | object entries => exact (plain decoder member).1 entries
    | array items => exact (plain decoder member).2 items
    | _ => cases nested
  simp only [choice, List.findSome?_append, List.findSome?_eq_none_iff.mpr refused, Option.none_or,
    List.findSome?_cons, List.findSome?_nil]
  cases last json <;> simp [Except.toOption]

end Decoder

namespace Decoder.Keeps

variable {shape : Shape} {related other : α → α → Prop} {decoder : Decoder α}

theorem mono (keeps : Keeps rule shape related decoder)
    (weaker : ∀ value value', related value value' → other value value') :
    Keeps rule shape other decoder :=
  Decoder.Respects.mono keeps weaker

/-- Nothing is inserted into a value without nodes. -/
theorem leaf : Keeps rule .leaf related decoder := by
  intro json json' value insertion
  cases insertion

theorem listRelated (refl : ∀ value, related value value) (keeps : Keeps rule shape related decoder) :
    Keeps rule (.list shape) (List.Forall₂ related) (Decoder.list decoder) := by
  intro json json' values insertion decoded
  cases insertion with
  | item inner => exact Decoder.Respects.list refl keeps _ _ _ (.item inner) decoded

theorem nullableRelated (keeps : Keeps rule shape related decoder) :
    Keeps rule shape (Option.Rel related) (Decoder.nullable decoder) :=
  Decoder.Respects.nullable (fun _ _ => Insertion.isNested) keeps

theorem list (keeps : Keeps rule shape Eq decoder) :
    Keeps rule (.list shape) Eq (Decoder.list decoder) :=
  (keeps.listRelated fun _ => rfl).mono fun values values' same => by rwa [List.forall₂_eq_eq_eq] at same

theorem nullable (keeps : Keeps rule shape Eq decoder) :
    Keeps rule shape Eq (Decoder.nullable decoder) :=
  keeps.nullableRelated.mono fun value value' same => by
    cases same with
    | some same => exact congrArg some same
    | none => rfl

theorem choice {name : String} {last : Decoder α} (scalars : List (Decoder α))
    (plain : ∀ decoder ∈ scalars, decoder.IsScalar) (keeps : Keeps rule shape Eq last) :
    Keeps rule shape Eq (Decoder.choice name (scalars ++ [last])) := by
  intro json json' value insertion decoded
  obtain ⟨before, after⟩ := insertion.isNested
  obtain ⟨value', found, same⟩ := keeps _ _ _ insertion ((choice_last plain before).mp decoded)
  exact ⟨value', (choice_last plain after).mpr found, same⟩

theorem mapped {f : α → β} (keeps : Keeps rule shape Eq decoder) :
    Keeps rule shape Eq fun json => (decoder json).map f := by
  intro json json' value insertion decoded
  obtain ⟨inner, found, rfl⟩ := map_eq_ok.mp decoded
  obtain ⟨_, found', rfl⟩ := keeps _ _ _ insertion found
  exact ⟨_, map_eq_ok.mpr ⟨inner, found', rfl⟩, rfl⟩

/-- Decoders that are made of layers keep what each layer keeps where the decoders inside it do. -/
theorem of_layers {ι : Type} {bounded : ι → Nat → Decoder α} {layer : (ι → Decoder α) → ι → Decoder α}
    (layered : Layered bounded layer)
    (step : ∀ inner : ι → Decoder α, (∀ place, Keeps rule shape related (inner place)) →
      ∀ place, Keeps rule shape related (layer inner place)) (place : ι) :
    Keeps rule shape related fun json => bounded place json.depth json :=
  Decoder.Respects.of_layers layered step place

theorem constant {value : α} : Keeps rule shape Eq fun _ => .ok value :=
  fun _ _ value _ decoded => ⟨value, decoded, rfl⟩

/-- Where an entry tells which part of a value is decoded, the part is kept, as nothing is inserted into
that entry. -/
theorem chosen {choice : Choice} {node : Node} {key : String} {tag : Json} {whole : Decoder β}
    {build : α → β} {relatedTo : β → β → Prop}
    (selects : ∀ json : Json, json.get? key = some tag →
      whole json = (decoder json).map build ∧ choice.shape json = .node node)
    (plain : ∀ field ∈ node.fields, field.name = key → field.isOptional = false ∧ field.shape = .leaf)
    (keeps : Keeps rule (.node node) related decoder)
    (carries : ∀ value value', related value value' → relatedTo (build value) (build value'))
    {json json' : Json} {value : β} (insertion : Insertion rule (choice.shape json) json json')
    (found : json.get? key = some tag) (decoded : whole json = .ok value) :
    ∃ value', whole json' = .ok value' ∧ relatedTo value value' := by
  rw [(selects json found).2] at insertion
  exact Decoder.Respects.chosen (fun json found => (selects json found).1) keeps carries insertion found
    (insertion.get?_eq plain found) decoded

end Decoder.Keeps

namespace Record.Keeps

variable {fields others : List Field} {related : α → α → Prop} {relatedTo : β → β → Prop}
  {name : String} {shape : Shape} {item : Decoder α}

theorem respects {record : Record α} (keeps : Keeps rule fields related record) :
    record.Respects (fun field => field.Kept rule) fields related :=
  ⟨keeps.names, keeps.read⟩

theorem of_respects {record : Record α} (respects : record.Respects (fun field => field.Kept rule) fields related) :
    Keeps rule fields related record :=
  ⟨respects.names, respects.read⟩

theorem mapRelated {f : α → β} {record : Record α} (keeps : Keeps rule fields related record)
    (respects : ∀ value value', related value value' → relatedTo (f value) (f value')) :
    Keeps rule fields relatedTo (f <$> record) :=
  .of_respects (keeps.respects.map respects)

theorem map {f : α → β} {record : Record α} (keeps : Keeps rule fields Eq record) :
    Keeps rule fields Eq (f <$> record) :=
  keeps.mapRelated fun _ _ same => congrArg f same

theorem apRelated {function : Record (α → β)} {argument : Record α}
    (first : Keeps rule fields (Relator.LiftFun related relatedTo) function)
    (second : Keeps rule others related argument) :
    Keeps rule (fields ++ others) relatedTo (function <*> argument) :=
  .of_respects (first.respects.ap second.respects)

/-- An argument that stays the same is given to functions that are related for every argument. -/
theorem apSame {function : Record (α → β)} {argument : Record α}
    (first : Keeps rule fields (fun f f' => ∀ value, relatedTo (f value) (f' value)) function)
    (second : Keeps rule others Eq argument) :
    Keeps rule (fields ++ others) relatedTo (function <*> argument) :=
  .of_respects (first.respects.apSame second.respects)

theorem ap {function : Record (α → β)} {argument : Record α} (first : Keeps rule fields Eq function)
    (second : Keeps rule others Eq argument) :
    Keeps rule (fields ++ others) Eq (function <*> argument) := by
  refine apSame ⟨first.names, fun byName values values' value kept read => ?_⟩ second
  obtain ⟨f, found, rfl⟩ := first.read _ _ _ _ kept read
  exact ⟨_, found, fun _ => rfl⟩

theorem pure {value : α} : Keeps rule [] Eq (Pure.pure value : Record α) :=
  ⟨rfl, fun _ _ _ value _ read => ⟨value, read, rfl⟩⟩

/-- A record of one field. `absent` is what is read if there is no value. -/
theorem single {field : Field} {absent : Except Fault α} (refl : ∀ value, related value value)
    (keeps : Decoder.Keeps rule field.shape related item)
    (null : field.isOptional = true → absent = (item .null).mapError (Fault.refused field.name)) :
    Keeps rule [field] related ⟨[field.name], fun _ values =>
      match values field.name with
      | some json => (item json).mapError (Fault.refused field.name)
      | none => absent⟩ := by
  refine .of_respects (.single fun before after kept value read => ?_)
  cases kept with
  | same => exact ⟨value, read, refl value⟩
  | null isOptional => exact ⟨value, (null isOptional).symm.trans read, refl value⟩
  | inner inner =>
    obtain ⟨value', found, relation⟩ := keeps _ _ _ inner (mapError_eq_ok.mp read)
    exact ⟨value', mapError_eq_ok.mpr found, relation⟩

theorem field (keeps : Decoder.Keeps rule shape Eq item) :
    Keeps rule [.strict name shape] Eq (Record.field name item) :=
  single (fun _ => rfl) keeps nofun

theorem fieldOr {absent : α} (keeps : Decoder.Keeps rule shape Eq item) :
    Keeps rule [.strict name shape] Eq (Record.fieldOr name absent item) :=
  single (fun _ => rfl) keeps nofun

theorem optionalRelated (refl : ∀ value, related value value)
    (keeps : Decoder.Keeps rule shape related item) :
    Keeps rule [.optional name shape] (Option.Rel related) (Record.optional name item) := by
  refine single (fun value? => ?_) keeps.nullableRelated fun _ => rfl
  cases value? with
  | none => exact .none
  | some value => exact .some (refl value)

theorem optional (keeps : Decoder.Keeps rule shape Eq item) :
    Keeps rule [.optional name shape] Eq (Record.optional name item) :=
  single (fun _ => rfl) keeps.nullable fun _ => rfl

theorem ofEntries {record : Record α} (keeps : Keeps rule fields related record)
    {entries entries' : List (String × Json)} {value : α}
    (kept : ∀ field ∈ fields, field.Kept rule (entries.lookup field.name) (entries'.lookup field.name))
    (decoded : record.ofEntries entries = .ok value) :
    ∃ value', record.ofEntries entries' = .ok value' ∧ related value value' :=
  keeps.respects.ofEntries kept decoded

theorem ofItems {record : Record α} (keeps : Keeps rule fields related record)
    {items items' : List Json} {value : α} (length : items'.length = items.length)
    (kept : ∀ field ∈ fields, field.Kept rule (((fields.map Field.name).zip items).lookup field.name)
      (((fields.map Field.name).zip items').lookup field.name))
    (decoded : record.ofItems items = .ok value) :
    ∃ value', record.ofItems items' = .ok value' ∧ related value value' :=
  keeps.respects.ofItems length kept decoded

/-- A decoder of a node keeps its results if the fields of the node are those of its record. -/
theorem decoder {node : Node} {record : Record α} (keeps : Keeps rule fields related record)
    (declared : fields = node.fields) :
    Decoder.Keeps rule (.node node) related (record.decoder name) := by
  subst declared
  intro json json' value insertion decoded
  refine keeps.respects.decoder _ _ _ ⟨insertion.isNested.1, fun _ same => ?_, fun _ same => ?_⟩ decoded
  · subst same
    exact insertion.kept_entries
  · subst same
    exact insertion.kept_items

end Record.Keeps

end SqlDdl
