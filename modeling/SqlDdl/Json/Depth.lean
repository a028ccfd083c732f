import SqlDdl.Json.Record

/-! Decoders that agree on all values below some depth. A decoder of nested nodes asks the decoders inside
it only about such values, so that it need not know how those treat deeper ones. A bound on the depth that
is large enough can be forgotten. -/

namespace SqlDdl

variable {α β : Type}

theorem Json.depth_le_depthItems {item : Json} {items : List Json} (member : item ∈ items) :
    item.depth ≤ depthItems items := by
  induction items with
  | nil => cases member
  | cons head items ih =>
    simp only [depthItems]
    rcases List.mem_cons.mp member with same | later
    · subst same
      omega
    · have := ih later
      omega

theorem Json.depth_le_depthEntries {key : String} {value : Json} {entries : List (String × Json)}
    (found : entries.lookup key = some value) : value.depth ≤ depthEntries entries := by
  induction entries with
  | nil => cases found
  | cons head entries ih =>
    obtain ⟨name, other⟩ := head
    simp only [depthEntries]
    rw [List.lookup_cons] at found
    split at found
    · cases found
      omega
    · have := ih found
      omega

/-- What holds of all values but arrays and objects holds of a value without depth. -/
@[elab_as_elim]
theorem Json.of_depth_eq_zero {holds : Json → Prop} {json : Json} (shallow : json.depth = 0)
    (null : holds .null) (bool : ∀ value, holds (.bool value)) (number : ∀ value, holds (.number value))
    (string : ∀ text, holds (.string text)) : holds json := by
  cases json with
  | null => exact null
  | bool value => exact bool value
  | number value => exact number value
  | string text => exact string text
  | array items => simp [depth] at shallow
  | object entries => simp [depth] at shallow

/-- Two decoders give the same result for every value below a depth. -/
def Decoder.AgreeBelow (bound : Nat) (first second : Decoder α) : Prop :=
  ∀ json : Json, json.depth < bound → first json = second json

namespace Decoder.AgreeBelow

variable {bound lower : Nat} {first second : Decoder α}

theorem mono (agree : AgreeBelow bound first second) (le : lower ≤ bound) :
    AgreeBelow lower first second :=
  fun json below => agree json (Nat.lt_of_lt_of_le below le)

theorem list (agree : AgreeBelow bound first second) :
    AgreeBelow (bound + 1) (Decoder.list first) (Decoder.list second) := by
  intro json below
  cases json with
  | array items =>
    simp only [Json.depth] at below
    have same : ∀ item ∈ items, first item = second item := fun item member =>
      agree item (by have := Json.depth_le_depthItems member; omega)
    clear below
    show items.mapM first = items.mapM second
    induction items with
    | nil => rfl
    | cons head items ih =>
      rw [List.mapM_cons, List.mapM_cons, same head (List.mem_cons_self ..),
        ih fun item member => same item (List.mem_cons_of_mem _ member)]
  | _ => rfl

theorem nullable (agree : AgreeBelow bound first second) :
    AgreeBelow bound (Decoder.nullable first) (Decoder.nullable second) := by
  intro json below
  cases json <;> simp only [Decoder.nullable, agree _ below]

end Decoder.AgreeBelow

/-- Two records have the same fields and give the same result when every field has a value below a
depth. -/
def Record.AgreeBelow (bound : Nat) (first second : Record α) : Prop :=
  first.names = second.names ∧ ∀ byName values,
    (∀ name (json : Json), values name = some json → json.depth < bound) →
      first.read byName values = second.read byName values

namespace Record.AgreeBelow

variable {bound lower : Nat}

theorem refl (bound : Nat) (record : Record α) : AgreeBelow bound record record :=
  ⟨rfl, fun _ _ _ => rfl⟩

theorem mono {first second : Record α} (agree : AgreeBelow bound first second)
    (le : lower ≤ bound) : AgreeBelow lower first second :=
  ⟨agree.1, fun byName values below => agree.2 byName values fun name json found =>
    Nat.lt_of_lt_of_le (below name json found) le⟩

theorem fieldOr {name : String} {absent : α} {first second : Decoder α}
    (agree : Decoder.AgreeBelow bound first second) :
    AgreeBelow bound (Record.fieldOr name absent first) (Record.fieldOr name absent second) := by
  refine ⟨rfl, fun _ values below => ?_⟩
  simp only [Record.fieldOr]
  cases found : values name with
  | none => rfl
  | some json => simp only [agree json (below name json found)]

theorem field {name : String} {first second : Decoder α}
    (agree : Decoder.AgreeBelow bound first second) :
    AgreeBelow bound (Record.field name first) (Record.field name second) := by
  refine ⟨rfl, fun _ values below => ?_⟩
  simp only [Record.field]
  cases found : values name with
  | none => rfl
  | some json => simp only [agree json (below name json found)]

theorem optional {name : String} {first second : Decoder α}
    (agree : Decoder.AgreeBelow bound first second) :
    AgreeBelow bound (Record.optional name first) (Record.optional name second) :=
  fieldOr agree.nullable

theorem map {f : α → β} {first second : Record α} (agree : AgreeBelow bound first second) :
    AgreeBelow bound (f <$> first) (f <$> second) :=
  ⟨agree.1, fun byName values below => congrArg (Except.map f) (agree.2 byName values below)⟩

theorem ap {functions others : Record (α → β)} {first second : Record α}
    (agreeLeft : AgreeBelow bound functions others) (agreeRight : AgreeBelow bound first second) :
    AgreeBelow bound (functions <*> first) (others <*> second) := by
  refine ⟨?_, fun byName values below => ?_⟩
  · show functions.names ++ first.names = others.names ++ second.names
    rw [agreeLeft.1, agreeRight.1]
  · show (Record.ap functions first).read byName values = (Record.ap others second).read byName values
    simp only [Record.ap, agreeLeft.2 byName values below, agreeRight.2 byName values below]

theorem ofEntries {first second : Record α} {entries : List (String × Json)}
    (agree : AgreeBelow (Json.depthEntries entries + 1) first second) :
    first.ofEntries entries = second.ofEntries entries := by
  simp only [Record.ofEntries]
  rw [agree.2 _ _ fun _ _ found => Nat.lt_succ_of_le (Json.depth_le_depthEntries found)]

theorem mem_of_lookup_zip {names : List String} {items : List Json} {name : String} {json : Json}
    (found : (names.zip items).lookup name = some json) : json ∈ items := by
  induction names generalizing items with
  | nil => cases found
  | cons head names ih =>
    cases items with
    | nil => cases found
    | cons item items =>
      rw [List.zip_cons_cons, List.lookup_cons] at found
      split at found
      · cases found
        exact List.mem_cons_self ..
      · exact List.mem_cons_of_mem _ (ih found)

theorem ofItems {first second : Record α} {items : List Json}
    (agree : AgreeBelow (Json.depthItems items + 1) first second) :
    first.ofItems items = second.ofItems items := by
  simp only [Record.ofItems, agree.1]
  rw [agree.2 _ _ fun _ _ found =>
    Nat.lt_succ_of_le (Json.depth_le_depthItems (mem_of_lookup_zip found))]

theorem decoder {name : String} {first second : Record α}
    (agree : AgreeBelow bound first second) :
    Decoder.AgreeBelow (bound + 1) (first.decoder name) (second.decoder name) := by
  intro json below
  cases json with
  | object entries => exact ofEntries (agree.mono (by simp only [Json.depth] at below; omega))
  | array items => exact ofItems (agree.mono (by simp only [Json.depth] at below; omega))
  | _ => rfl

end Record.AgreeBelow

/-- Decoders for some places, with a bound on the depth of a value, that are made of layers. A layer is a
decoder given the decoders inside it. -/
structure Decoder.Layered {ι : Type} (bounded : ι → Nat → Decoder α)
    (layer : (ι → Decoder α) → ι → Decoder α) : Prop where
  succ (place : ι) (depth : Nat) : bounded place (depth + 1) = layer (bounded · depth) place
  refused {place : ι} {json : Json} {value : α} : bounded place 0 json ≠ .ok value
  /-- A value without arrays and objects is refused by every layer in the same way. -/
  flat {inner : ι → Decoder α} {place : ι} {json : Json} (shallow : json.depth = 0) :
    layer inner place json = bounded place 0 json
  /-- A layer asks about the values inside its own only. -/
  congr {first second : ι → Decoder α} {place : ι} {json : Json}
    (agree : ∀ place, AgreeBelow json.depth (first place) (second place)) :
    layer first place json = layer second place json

namespace Decoder.Layered

variable {ι : Type} {bounded : ι → Nat → Decoder α} {layer : (ι → Decoder α) → ι → Decoder α}

/-- Any two sufficient bounds give the same result. -/
theorem bounded_eq (layered : Layered bounded layer) {place : ι} {json : Json} {n m : Nat}
    (enough : json.depth ≤ n) (sufficient : json.depth ≤ m) :
    bounded place n json = bounded place m json := by
  induction n generalizing place json m with
  | zero =>
    cases m with
    | zero => rfl
    | succ m => rw [layered.succ, layered.flat (Nat.le_zero.mp enough)]
  | succ n ih =>
    cases m with
    | zero => rw [layered.succ, layered.flat (Nat.le_zero.mp sufficient)]
    | succ m =>
      rw [layered.succ, layered.succ]
      exact layered.congr fun _ child below => ih (by omega) (by omega)

/-- With the depth of each value as its bound, a layer stands around the same decoders. -/
theorem eq_layer (layered : Layered bounded layer) (place : ι) (json : Json) :
    bounded place json.depth json = layer (fun place json => bounded place json.depth json) place json := by
  rw [layered.bounded_eq (Nat.le_refl _) (Nat.le_succ json.depth), layered.succ]
  exact layered.congr fun _ child below => layered.bounded_eq (Nat.le_of_lt below) (Nat.le_refl _)

end Decoder.Layered

end SqlDdl
