import SqlDdl.Json.DecodeError

/-! Decoders: functions from JSON values to nodes. -/

namespace SqlDdl

variable {α : Type}

abbrev Decoder (α : Type) := Json → Except DecodeError α

namespace Decoder

def string : Decoder String
  | .string value => .ok value
  | json => .error (.wrongType json "a string")

def bool : Decoder Bool
  | .bool value => .ok value
  | json => .error (.wrongType json "a boolean")

def number : Decoder Number
  | .number value => .ok value
  | json => .error (.wrongType json "a JSON number")

/-- Decodes an integer between `low` and `high`; `name` is the name of that range. -/
def integer (name : String) (low high : Int) : Decoder Int
  | .number (.integer value) =>
    if low ≤ value ∧ value ≤ high then .ok value else .error (.wrongInteger value name)
  | json => .error (.wrongType json name)

/-- Decodes an integer of 64 bits without a sign. -/
def natural : Decoder Nat := fun json =>
  (integer "u64" 0 0xffffffffffffffff json).map Int.toNat

/-- Decodes an integer of 64 bits with a sign. -/
def signed : Decoder Int :=
  integer "i64" (-0x8000000000000000) 0x7fffffffffffffff

def list (item : Decoder α) : Decoder (List α)
  | .array items => items.mapM item
  | json => .error (.wrongType json "a sequence")

/-- Takes `null` as an absent value. -/
def nullable (value : Decoder α) : Decoder (Option α)
  | .null => .ok none
  | json => (value json).map some

/-- Tries decoders in order. What is wrong with the value in each of them is not kept. -/
def choice (name : String) (alternatives : List (Decoder α)) : Decoder α := fun json =>
  match alternatives.findSome? fun alternative => (alternative json).toOption with
  | some value => .ok value
  | none => .error (.noAlternative name)

end Decoder

end SqlDdl
