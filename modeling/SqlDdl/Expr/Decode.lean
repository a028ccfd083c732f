import SqlDdl.Expr.Basic
import SqlDdl.Json.Record

/-! Decoding of expressions. -/

namespace SqlDdl

/-- A marker is a flag or a text. -/
def Marker.decode : Decoder Marker :=
  Decoder.choice "Marker" [
    fun json => (Decoder.bool json).map flag,
    fun json => (Decoder.string json).map text]

def ColumnRef.record : Record ColumnRef :=
  mk <$> .optional "table" Decoder.string <*> .field "column" Decoder.string

def ColumnRef.decode : Decoder ColumnRef :=
  record.decoder "ColumnRef"

/-- The forms of an expression in the order of their numbers. -/
inductive Expr.Form where
  | column
  | number
  | string
  | quotedString
  | bool
  | null
  | star
  | param
  | binary
  | unary
  | call
  | aggregate
  | list
deriving DecidableEq

/-- Where an expression stands. Its form can be given by number only inside another expression or a
choice. -/
inductive Expr.Place where
  | outer
  | inner
deriving DecidableEq

namespace Expr

def Form.names : List (String × Form) := [
  ("column_ref", column), ("number", number), ("single_quote_string", string), ("string", string),
  ("double_quote_string", quotedString), ("bool", bool), ("null", null), ("star", star),
  ("param", param), ("binary_expr", binary), ("unary_expr", unary), ("function", call),
  ("aggr_func", aggregate), ("expr_list", list)]

def Form.numbered : List Form := [
  column, number, string, quotedString, bool, null, star, param, binary, unary, call, aggregate,
  list]

def Form.decode (place : Place) : Decoder Form
  | .string name =>
    match names.lookup name with
    | some form => .ok form
    | none => .error (.unknownVariant name (names.map Prod.fst))
  | json =>
    match place, json with
    | .inner, .number (.integer (.ofNat index)) =>
      match numbered[index]? with
      | some form => .ok form
      | none => .error (.wrongInteger index "variant index 0 <= i < 13")
    | _, _ => .error (.wrongType json "variant identifier")

/-- Decodes a list of arguments, given how the expressions in it are decoded. -/
def decodeArgs (inner : Decoder Expr) : Decoder (List Expr) :=
  (Record.fieldOr "value" [] (Decoder.list inner)).decoder "ArgList"

def callRecord (inner : Decoder Expr) : Record (String × Option (List Expr)) :=
  Prod.mk <$> .field "name" Decoder.string <*> .optional "args" (decodeArgs inner)

/-- Decodes the argument of an aggregate function and its marker. -/
def decodeAggregateArgs (inner : Decoder Expr) : Decoder (Expr × Option Marker) :=
  Record.decoder "AggrArgs" <|
    Prod.mk <$> .field "expr" inner <*> .optional "distinct" Marker.decode

/-- The fields of an expression of some form. -/
def record (inner : Decoder Expr) : Form → Record Expr
  | .column => column <$> ColumnRef.record
  | .number => number <$> .field "value" Decoder.number
  | .string => string <$> .field "value" Decoder.string
  | .quotedString => quotedString <$> .field "value" Decoder.string
  | .bool => bool <$> .field "value" Decoder.bool
  | .null => pure null
  | .star => pure star
  | .param => param <$> .field "value" Decoder.string
  | .binary =>
    binary <$> .field "operator" Decoder.string <*> .field "left" inner <*> .field "right" inner
      <*> .fieldOr "parentheses" false Decoder.bool
  | .unary =>
    unary <$> .field "operator" Decoder.string <*> .field "expr" inner
      <*> .fieldOr "parentheses" false Decoder.bool
  | .call => (fun function => call function.1 function.2) <$> callRecord inner
  | .aggregate =>
    (fun name args => aggregate name args.1 args.2) <$> .field "name" Decoder.string
      <*> .field "args" (decodeAggregateArgs inner)
  | .list => list <$> .fieldOr "value" [] (Decoder.list inner)

/-- Decodes one layer of an expression, given how the expressions in it are decoded. The tag is an entry
of an object or the first item of an array. -/
def decodeLayer (inner : Decoder Expr) (place : Place) : Decoder Expr
  | .object entries => do
    let tag ← (entries.lookup "type").elim (.error (.missingField "type")) .ok
    (record inner (← Form.decode place tag)).ofEntries entries
  | .array (tag :: items) => do
    (record inner (← Form.decode place tag)).ofItems items
  | .array [] => .error (.missingField "type")
  | json => .error (.wrongType json "internally tagged enum Expr")

/-- Decodes an expression from a value of at most the given depth. A value of depth zero is neither an
object nor an array, and so it is not an expression. -/
def decodeTo (place : Place) : (depth : Nat) → Decoder Expr
  | 0, json => .error (.wrongType json "internally tagged enum Expr")
  | depth + 1, json => decodeLayer (decodeTo .inner depth) place json

def decode (place : Place) : Decoder Expr := fun json =>
  decodeTo place json.depth json

end Expr

def FunctionCall.decode : Decoder FunctionCall :=
  Record.decoder "FunctionCall" <|
    mk <$> .field "name" Decoder.string
      <*> .optional "args" (Expr.decodeArgs (Expr.decode .outer))

end SqlDdl
