import SqlDdl.Json.Fields
import SqlDdl.Table.Basic

/-! The definitions in the body of a table. -/

namespace SqlDdl

/-- The type of a column, such as `DECIMAL(10, 2) UNSIGNED`. -/
structure DataType where
  name : String
  length : Option Nat
  scale : Option Nat
  suffixes : Option (List String)
deriving DecidableEq

/-- A keyword with a text after it. -/
structure KeywordValue where
  keyword : String
  value : String
deriving DecidableEq

/-- A keyword and a text with a sign between them, such as a character set. -/
structure KeywordSetting where
  keyword : String
  symbol : Option String
  value : String
deriving DecidableEq

/-- A keyword with an expression after it. -/
structure KeywordExpr where
  keyword : String
  value : Expr
deriving BEq

/-- A keyword and an expression with a sign between them, such as a comment or an index option. -/
structure ExprSetting where
  keyword : String
  symbol : Option String
  value : Expr
deriving BEq

/-- What a foreign key refers to. -/
structure ReferenceDefinition where
  table : Tables
  columns : List Expr
  /-- What happens to a row when the row that it refers to changes. -/
  actions : List KeywordValue
deriving BEq

/-- The expression of a generated column. -/
structure GeneratedColumn where
  /-- The keywords before the expression. -/
  keyword : Option String
  expr : Expr
  storage : Option String
deriving BEq

structure IndexDefinition where
  keyword : String
  name : Option String
  kind : Option KeywordValue
  columns : List Expr
  options : Option (List ExprSetting)
deriving BEq

/-- A constraint on a table or a column. -/
structure ConstraintDefinition where
  name : Option String
  /-- The keyword before the name. -/
  keyword : Option String
  /-- The keywords of the constraint, such as `PRIMARY KEY` or `CHECK`. -/
  kind : String
  index : Option String
  indexKind : Option KeywordValue
  /-- The columns of a key, or the conditions of a check. -/
  exprs : List Expr
  reference : Option ReferenceDefinition
  options : Option (List ExprSetting)
deriving BEq

structure ColumnDefinition where
  column : ColumnRef
  dataType : DataType
  nullable : Option KeywordValue
  default : Option KeywordExpr
  autoIncrement : Option String
  unique : Option String
  primaryKey : Option String
  collate : Option KeywordValue
  check : Option ConstraintDefinition
  generated : Option GeneratedColumn
  characterSet : Option KeywordSetting
  columnFormat : Option KeywordValue
  storage : Option KeywordValue
  comment : Option ExprSetting
  reference : Option ReferenceDefinition
  /-- The fields that have no rendering. -/
  extra : Json.Fields
deriving BEq

namespace ColumnDefinition

/-- The column of a name and a type, and nothing more. -/
def named (column dataType : String) : ColumnDefinition where
  column := .named column
  dataType := ⟨dataType, none, none, none⟩
  nullable := none
  default := none
  autoIncrement := none
  unique := none
  primaryKey := none
  collate := none
  check := none
  generated := none
  characterSet := none
  columnFormat := none
  storage := none
  comment := none
  reference := none
  extra := .empty

def withLength (column : ColumnDefinition) (length : Nat) : ColumnDefinition :=
  { column with dataType := { column.dataType with length := some length } }

def notNull (column : ColumnDefinition) : ColumnDefinition :=
  { column with nullable := some ⟨"not null", "not null"⟩ }

def withDefault (column : ColumnDefinition) (value : Expr) : ColumnDefinition :=
  { column with default := some ⟨"default", value⟩ }

def asPrimaryKey (column : ColumnDefinition) : ColumnDefinition :=
  { column with primaryKey := some "primary key" }

end ColumnDefinition

inductive Definition where
  | column (value : ColumnDefinition)
  | index (value : IndexDefinition)
  | constraint (value : ConstraintDefinition)
  /-- A definition of a kind that has no rendering. -/
  | unsupported (resource : String)
deriving BEq

def Definition.resource : Definition → String
  | column _ => "column"
  | index _ => "index"
  | constraint _ => "constraint"
  | unsupported resource => resource

end SqlDdl
