import SqlDdl.Number.Basic

/-! JSON values. -/

namespace SqlDdl

/-- A JSON value. The reader lists the entries of an object by increasing key, each key once. -/
inductive Json where
  | null
  | bool (value : Bool)
  | number (value : Number)
  | string (value : String)
  | array (items : List Json)
  | object (entries : List (String × Json))

namespace Json

instance : Inhabited Json := ⟨null⟩

/-- The value under a key of an object. -/
def get? (key : String) : Json → Option Json
  | object entries => entries.lookup key
  | _ => none

/-- Whether the value is `null`. -/
def isNull : Json → Bool
  | null => true
  | _ => false

mutual

/-- How many arrays and objects lie inside one another at most. -/
def depth : Json → Nat
  | array items => depthItems items + 1
  | object entries => depthEntries entries + 1
  | _ => 0

/-- The greatest depth of a list of values. -/
def depthItems : List Json → Nat
  | [] => 0
  | item :: items => max item.depth (depthItems items)

/-- The greatest depth of the values of some entries. -/
def depthEntries : List (String × Json) → Nat
  | [] => 0
  | (_, value) :: entries => max value.depth (depthEntries entries)

end

mutual

/-- Whether two values are equal, where numbers are compared by value. -/
def same : Json → Json → Bool
  | null, null => true
  | bool a, bool b => a == b
  | number a, number b => a == b
  | string a, string b => a == b
  | array a, array b => sameItems a b
  | object a, object b => sameEntries a b
  | _, _ => false

/-- Whether two lists have equal values at equal places. -/
def sameItems : List Json → List Json → Bool
  | [], [] => true
  | a :: as, b :: bs => a.same b && sameItems as bs
  | _, _ => false

/-- Whether two lists have equal entries at equal places. -/
def sameEntries : List (String × Json) → List (String × Json) → Bool
  | [], [] => true
  | (key, a) :: as, (name, b) :: bs => key == name && a.same b && sameEntries as bs
  | _, _ => false

end

instance : BEq Json := ⟨same⟩

/-- Puts an entry before the first entry with a greater key, in place of one with the same key. -/
def insertEntry (key : String) (value : Json) : List (String × Json) → List (String × Json)
  | [] => [(key, value)]
  | (name, other) :: entries =>
    if key < name then (key, value) :: (name, other) :: entries
    else if key = name then (key, value) :: entries
    else (name, other) :: insertEntry key value entries

/-- The entries by increasing key. Of two entries with one key the later one is kept. -/
def sortEntries (entries : List (String × Json)) : List (String × Json) :=
  entries.foldl (fun sorted entry => insertEntry entry.1 entry.2 sorted) []

end Json

end SqlDdl
