import SqlDdl.Expr.Decode
import SqlDdl.Json.Depth

/-! The bound on the depth in the decoder of expressions can be forgotten: `Expr.decode_eq` says that an
expression is decoded by one layer around the same decoder. -/

namespace SqlDdl.Expr

variable {bound : Nat} {first second : Decoder Expr}

theorem decodeArgs_congr (agree : Decoder.AgreeBelow bound first second) :
    Decoder.AgreeBelow bound (decodeArgs first) (decodeArgs second) :=
  (Record.AgreeBelow.fieldOr agree.list).decoder.mono (by omega)

theorem decodeAggregateArgs_congr (agree : Decoder.AgreeBelow bound first second) :
    Decoder.AgreeBelow bound (decodeAggregateArgs first) (decodeAggregateArgs second) :=
  (Record.AgreeBelow.ap (.map (.field agree)) (.refl ..)).decoder.mono (by omega)

theorem record_congr (agree : Decoder.AgreeBelow bound first second) (form : Form) :
    Record.AgreeBelow bound (record first form) (record second form) := by
  cases form with
  | binary => exact .ap (.ap (.ap (.map (.refl ..)) (.field agree)) (.field agree)) (.refl ..)
  | unary => exact .ap (.ap (.map (.refl ..)) (.field agree)) (.refl ..)
  | call => exact .map (.ap (.map (.refl ..)) (.optional (decodeArgs_congr agree)))
  | aggregate => exact .ap (.map (.refl ..)) (.field (decodeAggregateArgs_congr agree))
  | list => exact .map (.fieldOr (agree.list.mono (by omega)))
  | _ => exact .refl ..

theorem decodeLayer_congr {place : Place} {json : Json}
    (agree : Decoder.AgreeBelow json.depth first second) :
    decodeLayer first place json = decodeLayer second place json := by
  cases json with
  | object entries =>
    simp only [Json.depth] at agree
    simp only [decodeLayer]
    congr 1
    funext tag
    congr 1
    funext form
    exact Record.AgreeBelow.ofEntries (record_congr agree form)
  | array items =>
    cases items with
    | nil => rfl
    | cons tag items =>
      simp only [Json.depth, Json.depthItems] at agree
      simp only [decodeLayer]
      congr 1
      funext form
      exact Record.AgreeBelow.ofItems (record_congr (agree.mono (by omega)) form)
  | _ => rfl

theorem isLayered : Decoder.Layered decodeTo fun inner => decodeLayer (inner .inner) where
  succ _ _ := rfl
  refused same := by cases same
  flat shallow := Json.of_depth_eq_zero shallow rfl (fun _ => rfl) (fun _ => rfl) fun _ => rfl
  congr agree := decodeLayer_congr (agree .inner)

/-- An expression is decoded layer by layer. -/
theorem decode_eq (place : Place) (json : Json) :
    decode place json = decodeLayer (decode .inner) place json :=
  isLayered.eq_layer place json

end SqlDdl.Expr
