import SqlDdl.Table.Basic

/-! Queries. -/

namespace SqlDdl

/-- A column of the result of a select. -/
structure SelectColumn where
  expr : Expr
  aliasName : Option String
deriving BEq

/-- The columns of a select: a text such as the star, or a list. -/
inductive SelectColumns where
  | star (text : String)
  | list (columns : List SelectColumn)
deriving BEq

/-- An item by which the result is ordered. -/
structure OrderItem where
  expr : Expr
  order : Option String
deriving BEq

/-- How many rows are taken. The separator says what two values mean. -/
structure Limit where
  separator : Option String
  values : List Expr
deriving BEq

/-- A single select. -/
structure Select where
  distinct : Option Marker
  columns : SelectColumns
  source : Option Tables
  condition : Option Expr
  groupBy : Option (List Expr)
  having : Option Expr
  orderBy : Option (List OrderItem)
  limit : Option Limit
  /-- The set operation that joins this select to the next one of a query. -/
  setOperation : Option String
deriving BEq

/-- A chain of selects that are joined by set operations. -/
structure Query where
  first : Select
  later : List Select
deriving BEq

end SqlDdl
