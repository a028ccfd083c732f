import SqlDdl.Proofs.Respects

/-! Insertions into a JSON value: fields that are `null` and entries that no node declares. -/

namespace SqlDdl

/-- Which entries a node may gain besides its declared fields. A column keeps such entries, and so it may
gain only those that are `null`. -/
structure Rule where
  allows : Node → Json → Prop
  column : ∀ value, allows .column value → value = .null

namespace Rule

/-- No entry besides the declared fields. -/
def fieldsOnly : Rule := ⟨fun _ _ => False, fun _ => False.elim⟩

/-- Any entry in all nodes but columns. -/
def besidesColumns : Rule := ⟨fun node _ => node ≠ .column, fun _ other => (other rfl).elim⟩

/-- Any entry in all nodes but columns, and `null` in these. -/
def nullInColumns : Rule :=
  ⟨fun node value => node = .column → value = .null, fun _ only => only rfl⟩

end Rule

/-- One insertion into an object at any depth of a value of some shape. -/
inductive Insertion (rule : Rule) : Shape → Json → Json → Prop where
  /-- An optional field that is absent becomes `null`. -/
  | null {node : Node} {field : Field} {before after : List (String × Json)}
      (declared : field ∈ node.fields) (isOptional : field.isOptional = true)
      (absent : (before ++ after).lookup field.name = none) :
      Insertion rule (.node node) (.object (before ++ after))
        (.object (before ++ (field.name, .null) :: after))
  /-- An entry is added that is not declared. -/
  | entry {node : Node} {name : String} {value : Json} {before after : List (String × Json)}
      (undeclared : name ∉ node.fields.map Field.name)
      (absent : (before ++ after).lookup name = none) (allowed : rule.allows node value) :
      Insertion rule (.node node) (.object (before ++ after))
        (.object (before ++ (name, value) :: after))
  | field {node : Node} {field : Field} {value value' : Json} {before after : List (String × Json)}
      (declared : field ∈ node.fields) (inner : Insertion rule field.shape value value') :
      Insertion rule (.node node) (.object (before ++ (field.name, value) :: after))
        (.object (before ++ (field.name, value') :: after))
  /-- The fields of a node may be given as an array. -/
  | element {node : Node} {field : Field} {front back : List Field} {value value' : Json}
      {before after : List Json} (declared : node.fields = front ++ field :: back)
      (place : front.length = before.length) (inner : Insertion rule field.shape value value') :
      Insertion rule (.node node) (.array (before ++ value :: after))
        (.array (before ++ value' :: after))
  | item {shape : Shape} {value value' : Json} {before after : List Json}
      (inner : Insertion rule shape value value') :
      Insertion rule (.list shape) (.array (before ++ value :: after))
        (.array (before ++ value' :: after))
  | choice {choice : Choice} {json json' : Json}
      (inner : Insertion rule (choice.shape json) json json') :
      Insertion rule (.choice choice) json json'

/-- What becomes of the value of a field when something is inserted into the node. -/
inductive Field.Kept (rule : Rule) (field : Field) : Option Json → Option Json → Prop where
  | same (value : Option Json) : Kept rule field value value
  | null (isOptional : field.isOptional = true) : Kept rule field none (some .null)
  | inner {value value' : Json} (inner : Insertion rule field.shape value value') :
      Kept rule field (some value) (some value')

section Lookup

variable {α : Type} {name key : String} {value : α} {before after : List (String × α)}

theorem lookup_insert_of_ne (other : key ≠ name) :
    (before ++ (name, value) :: after).lookup key = (before ++ after).lookup key := by
  have test : (key == name) = false := beq_eq_false_iff_ne.mpr other
  simp only [List.lookup_append, List.lookup_cons, test]

theorem lookup_insert (absent : (before ++ after).lookup name = none) :
    (before ++ (name, value) :: after).lookup name = some value := by
  rw [List.lookup_append, Option.or_eq_none_iff] at absent
  rw [List.lookup_append, absent.1, List.lookup_cons_self, Option.none_or]

end Lookup

namespace Insertion

variable {rule : Rule} {node : Node}

/-- An insertion leaves an object an object and an array an array. -/
theorem nested {shape : Shape} {json json' : Json} (insertion : Insertion rule shape json json') :
    (∃ entries entries', json = .object entries ∧ json' = .object entries') ∨
      ∃ items items', json = .array items ∧ json' = .array items' := by
  induction insertion with
  | null | entry | field => exact Or.inl ⟨_, _, rfl, rfl⟩
  | element | item => exact Or.inr ⟨_, _, rfl, rfl⟩
  | choice _ ih => exact ih

theorem isNested {shape : Shape} {json json' : Json} (insertion : Insertion rule shape json json') :
    json.isNested = true ∧ json'.isNested = true := by
  rcases insertion.nested with ⟨_, _, rfl, rfl⟩ | ⟨_, _, rfl, rfl⟩
  · exact ⟨rfl, rfl⟩
  · exact ⟨rfl, rfl⟩

/-- Of all fields of a node only the one is changed into which something is inserted. -/
theorem kept_replace {declared : Field} (member : declared ∈ node.fields) {value value' : Json}
    (inner : Insertion rule declared.shape value value') (before after : List (String × Json))
    {field : Field} (found : field ∈ node.fields) :
    field.Kept rule ((before ++ (declared.name, value) :: after).lookup field.name)
      ((before ++ (declared.name, value') :: after).lookup field.name) :=
  Json.InFields.change_replace (fun field => field.Kept rule) node.fields_nodup member (fun _ => .same)
    (.inner inner) before after found

theorem kept_entries {entries : List (String × Json)} {json' : Json}
    (insertion : Insertion rule (.node node) (.object entries) json') :
    ∃ entries', json' = .object entries' ∧ ∀ field ∈ node.fields,
      field.Kept rule (entries.lookup field.name) (entries'.lookup field.name) := by
  cases insertion with
  | null declared isOptional absent =>
    refine ⟨_, rfl, fun other found => ?_⟩
    rename_i field before after
    by_cases same : other.name = field.name
    · obtain rfl := Node.eq_of_name_eq found declared same
      rw [lookup_insert absent, absent]
      exact .null isOptional
    · rw [lookup_insert_of_ne same]
      exact .same _
  | entry undeclared absent allowed =>
    refine ⟨_, rfl, fun other found => ?_⟩
    rename_i name value before after
    have apart : other.name ≠ name := by
      rintro rfl
      exact undeclared (List.mem_map_of_mem found)
    rw [lookup_insert_of_ne apart]
    exact .same _
  | field declared inner =>
    exact ⟨_, rfl, fun other found => kept_replace declared inner _ _ found⟩

theorem kept_items {items : List Json} {json' : Json}
    (insertion : Insertion rule (.node node) (.array items) json') :
    ∃ items', json' = .array items' ∧ items'.length = items.length ∧ ∀ field ∈ node.fields,
      field.Kept rule (((node.fields.map Field.name).zip items).lookup field.name)
        (((node.fields.map Field.name).zip items').lookup field.name) := by
  cases insertion with
  | element declared place inner =>
    rename_i field front back value value' before after
    have kept := Json.InFields.replace_item (fun field => field.Kept rule) (declared ▸ node.fields_nodup) place
      (fun _ => .same) (.inner inner) after
    rw [← declared] at kept
    exact kept.ofItems _ rfl

/-- An entry that is present is kept if its field, if there is one, is no place for insertions. -/
theorem get?_eq {json json' : Json} {name : String} {value : Json}
    (insertion : Insertion rule (.node node) json json')
    (plain : ∀ field ∈ node.fields, field.name = name → field.isOptional = false ∧ field.shape = .leaf)
    (present : json.get? name = some value) : json'.get? name = some value := by
  cases insertion with
  | null declared isOptional absent =>
    rename_i field before after
    have apart : name ≠ field.name := by
      rintro rfl
      rw [(plain field declared rfl).1] at isOptional
      cases isOptional
    exact (lookup_insert_of_ne apart).trans present
  | entry undeclared absent allowed =>
    rename_i other added before after
    have apart : name ≠ other := by
      rintro rfl
      exact Option.some_ne_none _ (present.symm.trans absent)
    exact (lookup_insert_of_ne apart).trans present
  | field declared inner =>
    rename_i field first second before after
    have apart : name ≠ field.name := by
      rintro rfl
      rw [(plain field declared rfl).2] at inner
      cases inner
    exact (lookup_insert_of_ne apart).trans ((lookup_insert_of_ne apart).symm.trans present)
  | element => cases present

end Insertion

end SqlDdl
