import SqlDdl.Text.Blank
import SqlDdl.Text.Case

/-! Keywords and the optional fields that stand for one. -/

namespace SqlDdl

/-- The normal form of a keyword text: its words in upper case with one space between them. A blank
text has none. -/
def keyword? (text : String) : Option String :=
  match words text with
  | [] => none
  | found => some (upper (" ".intercalate found))

/-- A field that stands for a keyword: a flag, or the text of the keyword. -/
inductive Marker where
  | flag (isSet : Bool)
  | text (keyword : String)
deriving DecidableEq

/-- The keyword that a marker stands for. A set flag stands for `canonical`. -/
def Marker.keyword? (canonical : String) : Marker → Option String
  | flag true => some canonical
  | flag false => none
  | text keyword => SqlDdl.keyword? keyword

end SqlDdl
