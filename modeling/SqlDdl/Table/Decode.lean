import SqlDdl.Expr.Decode
import SqlDdl.Table.Basic

/-! Decoding of table references and table options. -/

namespace SqlDdl

def TableRef.record (place : Expr.Place) : Record TableRef :=
  mk <$> .optional "db" Decoder.string <*> .field "table" Decoder.string
    <*> .optional "as" Decoder.string <*> .optional "join" Decoder.string
    <*> .optional "on" (Expr.decode place) <*> .optional "using" (Decoder.list Decoder.string)

def TableRef.decode (place : Expr.Place) : Decoder TableRef :=
  (record place).decoder "TableRef"

/-- Tables are a list of table references or a single one. -/
def Tables.decode : Decoder Tables :=
  Decoder.choice "Tables" [
    fun json => (Decoder.list (TableRef.decode .inner) json).map many,
    fun json => (TableRef.decode .inner json).map one]

/-- The value of an option is a text, a number or an expression. -/
def OptionValue.decode : Decoder OptionValue :=
  Decoder.choice "OptionValue" [
    fun json => (Decoder.string json).map text,
    fun json => (Decoder.number json).map number,
    fun json => (Expr.decode .inner json).map expr]

def TableOption.decode : Decoder TableOption :=
  Record.decoder "TableOption" <|
    mk <$> .field "keyword" Decoder.string <*> .optional "symbol" Decoder.string
      <*> .field "value" OptionValue.decode

end SqlDdl
