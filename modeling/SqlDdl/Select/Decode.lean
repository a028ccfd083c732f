import SqlDdl.Select.Basic
import SqlDdl.Table.Decode

/-! Decoding of queries. -/

namespace SqlDdl

/-- Decodes a column of a select, which always stands inside a choice. -/
def SelectColumn.decode : Decoder SelectColumn :=
  Record.decoder "SelectColumn" <|
    mk <$> .field "expr" (Expr.decode .inner) <*> .optional "as" Decoder.string

/-- The columns of a select are a text or a list. -/
def SelectColumns.decode : Decoder SelectColumns :=
  Decoder.choice "SelectColumns" [
    fun json => (Decoder.string json).map star,
    fun json => (Decoder.list SelectColumn.decode json).map list]

def OrderItem.decode : Decoder OrderItem :=
  Record.decoder "OrderBy" <|
    mk <$> .field "expr" (Expr.decode .outer) <*> .optional "type" Decoder.string

def Limit.decode : Decoder Limit :=
  Record.decoder "Limit" <|
    mk <$> .optional "seperator" Decoder.string
      <*> .fieldOr "value" [] (Decoder.list (Expr.decode .outer))

def Select.record : Record Select :=
  let expr := Expr.decode .outer
  mk <$> .optional "distinct" Marker.decode <*> .field "columns" SelectColumns.decode
    <*> .optional "from" Tables.decode <*> .optional "where" expr
    <*> .optional "groupby" (Decoder.list expr) <*> .optional "having" expr
    <*> .optional "orderby" (Decoder.list OrderItem.decode) <*> .optional "limit" Limit.decode
    <*> .optional "set_op" Decoder.string

namespace Query

/-- A select in front of the ones that follow it. -/
def cons (first : Select) (next : Option Query) : Query :=
  match next with
  | none => ⟨first, []⟩
  | some query => ⟨first, query.first :: query.later⟩

/-- Decodes the first select of a query, given how the ones after it are decoded. -/
def decodeLayer (next : Decoder Query) : Decoder Query :=
  Record.decoder "Select" (cons <$> Select.record <*> .optional "_next" next)

/-- Decodes a query from a value of at most the given depth. A value of depth zero is neither an object
nor an array, and so it is not a query. -/
def decodeTo : (depth : Nat) → Decoder Query
  | 0, json => .error (.wrongType json "struct Select")
  | depth + 1, json => decodeLayer (decodeTo depth) json

def decode : Decoder Query := fun json =>
  decodeTo json.depth json

end Query

end SqlDdl
