import SqlDdl.Json.Depth
import SqlDdl.Select.Decode

/-! The bound on the depth in the decoder of queries can be forgotten: `Query.decode_eq` says that a query
is decoded by one select before the same decoder. -/

namespace SqlDdl.Query

theorem decodeLayer_congr {first second : Decoder Query} {json : Json}
    (agree : Decoder.AgreeBelow json.depth first second) :
    decodeLayer first json = decodeLayer second json := by
  have layers : ∀ {bound : Nat}, Decoder.AgreeBelow bound first second → Record.AgreeBelow bound
      (cons <$> Select.record <*> .optional "_next" first)
      (cons <$> Select.record <*> .optional "_next" second) :=
    fun agree => .ap (.refl ..) (.optional agree)
  cases json with
  | object entries => exact Record.AgreeBelow.ofEntries (layers agree)
  | array items => exact Record.AgreeBelow.ofItems (layers agree)
  | _ => rfl

theorem isLayered : Decoder.Layered (fun _ : Unit => decodeTo) fun next _ => decodeLayer (next ()) where
  succ _ _ := rfl
  refused same := by cases same
  flat shallow := Json.of_depth_eq_zero shallow rfl (fun _ => rfl) (fun _ => rfl) fun _ => rfl
  congr agree := decodeLayer_congr (agree ())

/-- A query is decoded select by select. -/
theorem decode_eq (json : Json) : decode json = decodeLayer decode json :=
  isLayered.eq_layer () json

end SqlDdl.Query
