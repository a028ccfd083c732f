import SqlDdl.Proofs.KeptNodes

/-! Values of several shapes. No value has two of them, and so the order in which they are tried makes no
difference. -/

namespace SqlDdl

variable {α β : Type}

theorem toOption_map_eq_none {ε : Type} {outcome : Except ε α} {f : α → β}
    (refused : outcome.toOption = none) : (outcome.map f).toOption = none := by
  cases outcome with
  | error => rfl
  | ok => cases refused

theorem findSome?_perm {f : α → Option β} {first second : List α} (reordered : first.Perm second)
    (apart : first.Pairwise fun a b => f a = none ∨ f b = none) : first.findSome? f = second.findSome? f := by
  induction reordered with
  | nil => rfl
  | cons a _ ih => rw [List.findSome?_cons, List.findSome?_cons, ih (List.pairwise_cons.mp apart).2]
  | swap a b rest =>
    have pair := (List.pairwise_cons.mp apart).1 a List.mem_cons_self
    simp only [List.findSome?_cons]
    rcases pair with none | none
    · rw [none]
    · rw [none]
  | trans before _ ih later =>
    have symm : ∀ {a b : α}, f a = none ∨ f b = none → f b = none ∨ f a = none := Or.symm
    rw [ih apart, later ((before.pairwise_iff symm).mp apart)]

namespace Decoder

/-- Whether no value is taken by both decoders. -/
def Apart (first second : Decoder α) : Prop :=
  ∀ json, (first json).toOption = none ∨ (second json).toOption = none

/-- A choice between alternatives of which no two take the same value, so that their order makes no
difference. -/
structure IsExclusive (decoder : Decoder α) (name : String) (alternatives : List (Decoder α)) : Prop where
  isChoice : decoder = choice name alternatives
  apart : alternatives.Pairwise Apart
  anyOrder : ∀ others : List (Decoder α), others.Perm alternatives → choice name others = decoder

theorem Apart.isExclusive {name : String} {alternatives : List (Decoder α)}
    (apart : alternatives.Pairwise Apart) : (choice name alternatives).IsExclusive name alternatives := by
  refine ⟨rfl, apart, fun others reordered => funext fun json => ?_⟩
  have found : (others.findSome? fun alternative => (alternative json).toOption) =
      alternatives.findSome? fun alternative => (alternative json).toOption :=
    (findSome?_perm reordered.symm (apart.imp fun either => either json)).symm
  simp only [choice, found]

/-- A decoder that takes neither arrays nor objects takes no value that only these are taken for. -/
theorem Apart.of_isScalar {first second : Decoder α} (scalar : first.IsScalar)
    (nested : ∀ json : Json, json.isNested = false → (second json).toOption = none) : Apart first second := by
  intro json
  cases json with
  | array items => exact Or.inl (scalar.2 items)
  | object entries => exact Or.inl (scalar.1 entries)
  | _ => exact Or.inr (nested _ rfl)

end Decoder

theorem Expr.toOption_decode_eq_none {place : Place} {json : Json} (plain : json.isNested = false) :
    (decode place json).toOption = none := by
  cases json with
  | array => cases plain
  | object => cases plain
  | _ => rfl

/-- What a marker is decoded as. -/
def Marker.alternatives : List (Decoder Marker) :=
  [fun json => (Decoder.bool json).map flag, fun json => (Decoder.string json).map text]

/-- What tables are decoded as. -/
def Tables.alternatives : List (Decoder Tables) :=
  [fun json => (Decoder.list (TableRef.decode .inner) json).map many,
    fun json => (TableRef.decode .inner json).map one]

/-- What the value of an option is decoded as. -/
def OptionValue.alternatives : List (Decoder OptionValue) :=
  [fun json => (Decoder.string json).map text, fun json => (Decoder.number json).map number,
    fun json => (Expr.decode .inner json).map expr]

/-- What the columns of a select are decoded as. -/
def SelectColumns.alternatives : List (Decoder SelectColumns) :=
  [fun json => (Decoder.string json).map star,
    fun json => (Decoder.list SelectColumn.decode json).map list]

theorem Marker.isExclusive : decode.IsExclusive "Marker" alternatives := by
  refine Decoder.Apart.isExclusive (List.pairwise_pair.mpr fun json => ?_)
  cases json with
  | bool => exact Or.inr rfl
  | _ => exact Or.inl rfl

/-- A list of tables begins with an array or an object, and a single table begins with a text or `null`. -/
theorem Tables.isExclusive : decode.IsExclusive "Tables" alternatives := by
  refine Decoder.Apart.isExclusive (List.pairwise_pair.mpr fun json => ?_)
  cases single : TableRef.decode .inner json with
  | error => exact Or.inr rfl
  | ok ref =>
    refine Or.inl (toOption_map_eq_none ?_)
    cases listed : Decoder.list (TableRef.decode .inner) json with
    | error => rfl
    | ok refs =>
      rcases shape_of_decodeList listed with rfl | shape
      · cases single
      · rw [shape_of_decode single] at shape
        cases shape

theorem OptionValue.isExclusive : decode.IsExclusive "OptionValue" alternatives := by
  have scalar : ∀ decoder ∈ alternatives.take 2, decoder.IsScalar := scalars
  have expression : ∀ json : Json, json.isNested = false →
      ((Expr.decode .inner json).map expr).toOption = none := fun json plain =>
    toOption_map_eq_none (Expr.toOption_decode_eq_none plain)
  refine Decoder.Apart.isExclusive (List.pairwise_cons.mpr ⟨?_, List.pairwise_pair.mpr ?_⟩)
  · refine List.forall_mem_cons.mpr ⟨fun json => ?_, List.forall_mem_singleton.mpr ?_⟩
    · cases json with
      | string => exact Or.inr rfl
      | _ => exact Or.inl rfl
    · exact .of_isScalar (scalar _ List.mem_cons_self) expression
  · exact .of_isScalar (scalar _ (List.mem_cons_of_mem _ List.mem_cons_self)) expression

theorem SelectColumns.isExclusive : decode.IsExclusive "SelectColumns" alternatives := by
  refine Decoder.Apart.isExclusive (List.pairwise_pair.mpr ?_)
  refine .of_isScalar (scalars _ List.mem_cons_self) fun json plain => toOption_map_eq_none ?_
  cases json with
  | array => cases plain
  | _ => rfl

/-! A table inside of a choice. -/

theorem Record.read_optional_mono {name : String} {first second : Decoder α} {byName : Bool}
    {values : String → Option Json} {value? : Option α}
    (weaker : ∀ json value, first json = .ok value → second json = .ok value)
    (read : (optional name first).read byName values = .ok value?) :
    (optional name second).read byName values = .ok value? := by
  simp only [optional, fieldOr] at read ⊢
  cases present : values name with
  | none =>
    rw [present] at read
    exact read
  | some json =>
    rw [present] at read
    refine mapError_eq_ok.mpr ?_
    have decoded := mapError_eq_ok.mp read
    cases json with
    | null => exact decoded
    | _ =>
      obtain ⟨value, found, same⟩ := map_eq_ok.mp decoded
      exact map_eq_ok.mpr ⟨value, weaker _ _ found, same⟩

/-- What is an expression anywhere is the same one inside of other values. -/
theorem Expr.decode_inner {place : Place} {json : Json} {value : Expr} (decoded : decode place json = .ok value) :
    decode .inner json = .ok value := by
  rw [decode_eq] at decoded ⊢
  cases json with
  | object entries =>
    obtain ⟨tag, form, found, tagged, fields⟩ := decodeLayer_object.mp decoded
    exact decodeLayer_object.mpr ⟨tag, form, found, Form.decode_inner tagged, fields⟩
  | array items =>
    obtain ⟨tag, rest, form, split, tagged, fields⟩ := decodeLayer_array.mp decoded
    exact decodeLayer_array.mpr ⟨tag, rest, form, split, Form.decode_inner tagged, fields⟩
  | _ => cases decoded

theorem TableRef.decode_inner {place : Expr.Place} {json : Json} {ref : TableRef}
    (decoded : decode place json = .ok ref) : decode .inner json = .ok ref := by
  have fields : ∀ {byName values}, (record place).read byName values = .ok ref →
      (record .inner).read byName values = .ok ref := by
    intro byName values read
    obtain ⟨_, shared, front, foundShared, rfl⟩ := Record.ap_eq_ok.mp read
    obtain ⟨_, condition, rest, foundCondition, rfl⟩ := Record.ap_eq_ok.mp front
    have inner := Record.read_optional_mono (fun _ _ => Expr.decode_inner) foundCondition
    have later := Record.ap_eq_ok.mpr ⟨_, condition, rest, inner, rfl⟩
    exact Record.ap_eq_ok.mpr ⟨_, shared, later, foundShared, rfl⟩
  cases json with
  | object entries => exact mapError_eq_ok.mpr (fields (mapError_eq_ok.mp decoded))
  | array items =>
    obtain ⟨read, fits⟩ := Record.ofItems_eq_ok.mp decoded
    exact Record.ofItems_eq_ok.mpr ⟨fields read, fits⟩
  | _ => cases decoded

/-- A single table and the list of it are decoded as the same tables. -/
theorem Tables.decode_single {place : Expr.Place} {json : Json} {ref : TableRef}
    (decoded : TableRef.decode place json = .ok ref) :
    decode json = .ok (one ref) ∧ decode (.array [json]) = .ok (many [ref]) := by
  have inner := TableRef.decode_inner decoded
  have listed : Decoder.list (TableRef.decode .inner) (.array [json]) = .ok [ref] :=
    mapM_cons_eq_ok.mpr ⟨ref, [], inner, rfl, rfl⟩
  exact ⟨decode_eq_ok.mpr (Or.inr ⟨ref, inner, rfl⟩), decode_eq_ok.mpr (Or.inl ⟨[ref], listed, rfl⟩)⟩

end SqlDdl
