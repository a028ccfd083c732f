import SqlDdl.Definition.Basic
import SqlDdl.Select.Basic

/-! The statements that create tables and triggers. -/

namespace SqlDdl

/-- A keyword with the tables after it, such as `LIKE other`. -/
structure LikeClause where
  keyword : String
  table : Tables
deriving BEq

/-- A statement that creates a table: with a body, like another table, or from a query. -/
structure TableStatement where
  /-- The first keywords, such as `create` or `create or replace`. -/
  create : String
  temporary : Option Marker
  keyword : String
  table : Tables
  ifNotExists : Option Marker
  like : Option LikeClause
  definitions : Option (List Definition)
  options : Option (List TableOption)
  /-- What happens to rows with a key that is there already. -/
  ignoreReplace : Option Marker
  asMarker : Option Marker
  query : Option Query
deriving BEq

namespace TableStatement

/-- The statement that creates a table and says nothing about it. -/
def plain (table : TableRef) : TableStatement where
  create := "create"
  temporary := none
  keyword := "table"
  table := .many [table]
  ifNotExists := none
  like := none
  definitions := none
  options := none
  ignoreReplace := none
  asMarker := none
  query := none

def orExisting (statement : TableStatement) : TableStatement :=
  { statement with ifNotExists := some (.flag true) }

def asTemporary (statement : TableStatement) : TableStatement :=
  { statement with temporary := some (.flag true) }

def withDefinitions (statement : TableStatement) (definitions : List Definition) :
    TableStatement :=
  { statement with definitions := some definitions }

def likeTable (statement : TableStatement) (source : TableRef) : TableStatement :=
  { statement with like := some ⟨"like", .many [source]⟩ }

end TableStatement

structure EventColumns where
  keyword : String
  columns : List ColumnRef
deriving DecidableEq

/-- An event on which a trigger fires. -/
structure TriggerEvent where
  keyword : String
  columns : Option EventColumns
deriving DecidableEq

def TriggerEvent.named (keyword : String) : TriggerEvent := ⟨keyword, none⟩

def TriggerEvent.ofColumns (event : TriggerEvent) (columns : List ColumnRef) : TriggerEvent :=
  { event with columns := some ⟨"of", columns⟩ }

/-- A keyword with more keywords after it. -/
structure KeywordArgs where
  keyword : String
  args : Option String
deriving DecidableEq

structure TriggerCondition where
  keyword : String
  condition : Expr
  /-- Whether the condition stands between parentheses. -/
  parenthesized : Bool
deriving BEq

structure TriggerAction where
  keyword : String
  function : FunctionCall
deriving BEq

structure TriggerStatement where
  /-- The first keywords, such as `create` or `create or replace`. -/
  create : String
  /-- The marker of a trigger that is a constraint. -/
  isConstraint : Option Marker
  keyword : String
  name : Option String
  /-- When the trigger fires, such as `before` or `instead of`. -/
  location : Option String
  events : List TriggerEvent
  table : TableRef
  source : Option TableRef
  deferrable : Option KeywordArgs
  forEach : Option KeywordArgs
  condition : Option TriggerCondition
  action : TriggerAction
deriving BEq

/-- A statement that creates something. -/
inductive Statement where
  | table (value : TableStatement)
  | trigger (value : TriggerStatement)
  /-- A statement that has no rendering. -/
  | unsupported (keyword : String)
deriving BEq

/-- The keyword that tells what a statement creates. -/
def Statement.keyword : Statement → String
  | table value => value.keyword
  | trigger value => value.keyword
  | unsupported keyword => keyword

end SqlDdl
