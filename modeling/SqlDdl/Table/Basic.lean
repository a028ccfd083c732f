import SqlDdl.Expr.Basic

/-! Table references and table options. -/

namespace SqlDdl

/-- A reference to a table, which may be joined to the table before it in a list. -/
structure TableRef where
  db : Option String
  table : String
  aliasName : Option String
  /-- The keyword of the join. -/
  join : Option String
  /-- The condition of the join. -/
  condition : Option Expr
  /-- The columns that the joined tables share. -/
  shared : Option (List String)
deriving BEq

def TableRef.named (table : String) : TableRef :=
  ⟨none, table, none, none, none, none⟩

def TableRef.withDb (ref : TableRef) (db : String) : TableRef :=
  { ref with db := some db }

/-- One table, or a list of tables. -/
inductive Tables where
  | many (tables : List TableRef)
  | one (table : TableRef)
deriving BEq

/-- The tables, in order. -/
def Tables.toList : Tables → List TableRef
  | many tables => tables
  | one table => [table]

/-- The value of a table option. -/
inductive OptionValue where
  | text (value : String)
  | number (value : Number)
  | expr (value : Expr)
deriving BEq

/-- An option of a table. -/
structure TableOption where
  keyword : String
  /-- The sign between the keyword and the value. -/
  symbol : Option String
  value : OptionValue
deriving BEq

end SqlDdl
