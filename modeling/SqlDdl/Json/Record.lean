import SqlDdl.Json.Decoder

/-! Nodes that are decoded from named fields. -/

namespace SqlDdl

variable {α β : Type}

/-- What is wrong with a field of a node. -/
inductive Fault where
  /-- The value of the field cannot be decoded. -/
  | refused (name : String) (error : DecodeError)
  /-- The field must be present and is not. -/
  | absent (name : String)

/-- The error of a node with this fault. -/
def Fault.error : Fault → DecodeError
  | refused _ error => error
  | absent name => .missingField name

/-- Which of two faults is reported, where the first one is of an earlier field. A refused value goes
before an absent field. Of two refused values the one with the smaller name is reported if the fields
are looked at by name, else the earlier one. -/
def Fault.first (byName : Bool) : Fault → Fault → Fault
  | refused name error, refused other problem =>
    if byName && other < name then refused other problem else refused name error
  | absent _, refused other problem => refused other problem
  | fault, _ => fault

/-- How an `α` is decoded from named fields. `names` lists the fields in the order in which an array
gives them; `read` is given the values that are present. -/
structure Record (α : Type) where
  names : List String
  read : (byName : Bool) → (String → Option Json) → Except Fault α

namespace Record

def pure (value : α) : Record α where
  names := []
  read _ _ := .ok value

def map (f : α → β) (record : Record α) : Record β where
  names := record.names
  read byName values := (record.read byName values).map f

def ap (function : Record (α → β)) (argument : Record α) : Record β where
  names := function.names ++ argument.names
  read byName values :=
    match function.read byName values, argument.read byName values with
    | .ok f, .ok value => .ok (f value)
    | .error fault, .ok _ => .error fault
    | .ok _, .error fault => .error fault
    | .error fault, .error other => .error (fault.first byName other)

instance : Applicative Record where
  pure := pure
  map := map
  seq function argument := ap function (argument ())

def field (name : String) (decoder : Decoder α) : Record α where
  names := [name]
  read _ values :=
    match values name with
    | some json => (decoder json).mapError (Fault.refused name)
    | none => .error (.absent name)

/-- A field with a value for the case that it is absent. -/
def fieldOr (name : String) (absent : α) (decoder : Decoder α) : Record α where
  names := [name]
  read _ values :=
    match values name with
    | some json => (decoder json).mapError (Fault.refused name)
    | none => .ok absent

/-- A field that may be absent or `null`. -/
def optional (name : String) (decoder : Decoder α) : Record (Option α) :=
  fieldOr name none (Decoder.nullable decoder)

/-- Decodes the entries of an object. Entries with other keys are passed over. -/
def ofEntries (record : Record α) (entries : List (String × Json)) : Except DecodeError α :=
  (record.read true fun name => entries.lookup name).mapError Fault.error

/-- Decodes the items of an array, one for each field; fields that may be absent can be left out at the
end. -/
def ofItems (record : Record α) (items : List Json) : Except DecodeError α :=
  match record.read false fun name => (record.names.zip items).lookup name with
  | .error (.refused _ error) => .error error
  | .error (.absent _) => .error .wrongLength
  | .ok value => if items.length ≤ record.names.length then .ok value else .error .wrongLength

/-- Decodes a node from an object or an array; `name` is the name of its type. -/
def decoder (name : String) (record : Record α) : Decoder α
  | .object entries => record.ofEntries entries
  | .array items => record.ofItems items
  | json => .error (.wrongType json ("struct " ++ name))

end Record

end SqlDdl
