import SqlDdl.Proofs.Alternatives

/-! A table and the list of it: one may stand for the other wherever tables are expected in a JSON value. -/

namespace SqlDdl

variable {α β : Type}

/-- Whether a node has no tables in it at any depth. -/
def Node.isFree : Node → Bool
  | reference | constraint | column | select | like | table => false
  | _ => true

def Shape.isFree : Shape → Bool
  | leaf => true
  | node kind => kind.isFree
  | list item => item.isFree
  | choice .expr => true
  | choice _ => false

/-- One table at any depth of a value of some shape becomes the list of it, or such a list becomes its only
table. -/
inductive Relisting : Shape → Json → Json → Prop where
  | list {table : Json} {ref : TableRef} (decoded : TableRef.decode .inner table = .ok ref) :
      Relisting (.choice .tables) table (.array [table])
  | single {table : Json} {ref : TableRef} (decoded : TableRef.decode .inner table = .ok ref) :
      Relisting (.choice .tables) (.array [table]) table
  | field {node : Node} {field : Field} {value value' : Json} {before after : List (String × Json)}
      (declared : field ∈ node.fields) (inner : Relisting field.shape value value') :
      Relisting (.node node) (.object (before ++ (field.name, value) :: after))
        (.object (before ++ (field.name, value') :: after))
  /-- The fields of a node may be given as an array. -/
  | element {node : Node} {field : Field} {front back : List Field} {value value' : Json}
      {before after : List Json} (declared : node.fields = front ++ field :: back)
      (place : front.length = before.length) (inner : Relisting field.shape value value') :
      Relisting (.node node) (.array (before ++ value :: after)) (.array (before ++ value' :: after))
  | item {shape : Shape} {value value' : Json} {before after : List Json}
      (inner : Relisting shape value value') :
      Relisting (.list shape) (.array (before ++ value :: after)) (.array (before ++ value' :: after))
  | choice {choice : Choice} {json json' : Json} (inner : Relisting (choice.shape json) json json') :
      Relisting (.choice choice) json json'

/-- What becomes of the value of a field when one table in the node is relisted. -/
inductive Field.Relisted (field : Field) : Option Json → Option Json → Prop where
  | same (value : Option Json) : Relisted field value value
  | inner {value value' : Json} (inner : Relisting field.shape value value') :
      Relisted field (some value) (some value')

theorem Node.isFree_fields {node : Node} (free : node.isFree = true) :
    ∀ field ∈ node.fields, field.shape.isFree = true := by
  cases node with
  | expr form => cases form <;> decide +kernel
  | reference | constraint | column | select | like | table => cases free
  | _ => decide +kernel

theorem Choice.isFree_expr (json : Json) : (expr.shape json).isFree = true := by
  simp only [shape]
  cases json.form? <;> rfl

theorem Choice.isFree_tables (json : Json) : (tables.shape json).isFree = true := by
  unfold shape
  split <;> first | rfl | contradiction

namespace Relisting

variable {shape : Shape} {node : Node} {json json' : Json}

/-- Nothing is relisted where no tables are. -/
theorem not_isFree (relisting : Relisting shape json json') : shape.isFree = false := by
  have inNode : ∀ {node : Node} {field : Field}, field ∈ node.fields → field.shape.isFree = false →
      node.isFree = false := fun {node field} declared inner => by
    refine Bool.eq_false_iff.mpr fun free => ?_
    rw [Node.isFree_fields free field declared] at inner
    cases inner
  induction relisting with
  | list | single => rfl
  | field declared _ ih => exact inNode declared ih
  | element declared _ _ ih => exact inNode (declared ▸ List.mem_append_right _ List.mem_cons_self) ih
  | item _ ih => exact ih
  | @choice choice json _ _ ih =>
    cases choice with
    | expr =>
      rw [Choice.isFree_expr] at ih
      cases ih
    | _ => rfl

theorem isNested_of_decode {place : Expr.Place} {ref : TableRef} (decoded : TableRef.decode place json = .ok ref) :
    json.isNested = true := by
  cases json with
  | object | array => rfl
  | _ => cases decoded

theorem isNested (relisting : Relisting shape json json') : json.isNested = true ∧ json'.isNested = true := by
  induction relisting with
  | list decoded => exact ⟨isNested_of_decode decoded, rfl⟩
  | single decoded => exact ⟨rfl, isNested_of_decode decoded⟩
  | field | element | item => exact ⟨rfl, rfl⟩
  | choice _ ih => exact ih

theorem inFields (relisting : Relisting (.node node) json json') :
    Json.InFields Field.Relisted node.fields json json' := by
  cases relisting with
  | field declared inner =>
    exact Json.InFields.replace_entry Field.Relisted node.fields_nodup declared (fun _ => .same) (.inner inner) _ _
  | element declared place inner =>
    rw [declared]
    exact Json.InFields.replace_item Field.Relisted (declared ▸ node.fields_nodup) place (fun _ => .same)
      (.inner inner) _

/-- An entry is kept if there are no tables in its field, if it is one. -/
theorem get?_eq {name : String} (relisting : Relisting (.node node) json json')
    (free : ∀ field ∈ node.fields, field.name = name → field.shape.isFree = true) :
    json'.get? name = json.get? name := by
  cases relisting with
  | field declared inner =>
    rename_i field value value' before after
    rcases @lookup_replace Json field.name value value' before after name with kept | ⟨rfl, _⟩
    · exact kept
    · have none := inner.not_isFree
      rw [free field declared rfl] at none
      cases none
  | element => rfl

end Relisting

/-- Where no tables are, nothing changes. -/
theorem Decoder.Respects.free {shape : Shape} {related : α → α → Prop} {decoder : Decoder α}
    (free : shape.isFree = true) : decoder.Respects (Relisting shape) related := by
  intro json json' value relisting
  rw [relisting.not_isFree] at free
  cases free

theorem Decoder.Respects.relistedList {shape : Shape} {related : α → α → Prop} {decoder : Decoder α}
    (respects : decoder.Respects (Relisting shape) related) (refl : ∀ value, related value value) :
    (Decoder.list decoder).Respects (Relisting (.list shape)) (List.Forall₂ related) := by
  intro json json' values relisting decoded
  cases relisting with
  | item inner => exact list refl respects _ _ _ (.item inner) decoded

namespace Record.Respects

variable {related : α → α → Prop} {name : String} {shape : Shape} {item : Decoder α}

theorem relisted {field : Field} {absent : Except Fault α}
    (respects : item.Respects (Relisting field.shape) related) (refl : ∀ value, related value value) :
    Respects Field.Relisted [field] related ⟨[field.name], fun _ values =>
      match values field.name with
      | some json => (item json).mapError (Fault.refused field.name)
      | none => absent⟩ := by
  refine .single fun before after relisted value read => ?_
  cases relisted with
  | same => exact ⟨value, read, refl value⟩
  | inner inner =>
    obtain ⟨value', found, relation⟩ := respects _ _ _ inner (mapError_eq_ok.mp read)
    exact ⟨value', mapError_eq_ok.mpr found, relation⟩

theorem field (respects : item.Respects (Relisting shape) related) (refl : ∀ value, related value value) :
    Respects Field.Relisted [.strict name shape] related (Record.field name item) :=
  relisted respects refl

theorem optional (respects : item.Respects (Relisting shape) related) (refl : ∀ value, related value value) :
    Respects Field.Relisted [.optional name shape] (Option.Rel related) (Record.optional name item) := by
  refine relisted (respects.nullable fun _ _ => Relisting.isNested) fun value? => ?_
  cases value? with
  | none => exact .none
  | some value => exact .some (refl value)

/-- A field in which no tables are. -/
theorem freeField (free : shape.isFree = true) :
    Respects Field.Relisted [.strict name shape] Eq (Record.field name item) :=
  relisted (.free free) fun _ => rfl

theorem freeFieldOr {absent : α} (free : shape.isFree = true) :
    Respects Field.Relisted [.strict name shape] Eq (Record.fieldOr name absent item) :=
  relisted (.free free) fun _ => rfl

theorem freeOptional (free : shape.isFree = true) :
    Respects Field.Relisted [.optional name shape] Eq (Record.optional name item) :=
  relisted (.free free) fun _ => rfl

theorem relistedNode {node : Node} {record : Record α} {typeName : String}
    (respects : Respects Field.Relisted node.fields related record) :
    (record.decoder typeName).Respects (Relisting (.node node)) related :=
  fun json json' value relisting => respects.decoder json json' value relisting.inFields

end Record.Respects

end SqlDdl
