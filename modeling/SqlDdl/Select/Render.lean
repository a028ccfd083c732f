import SqlDdl.Select.Basic
import SqlDdl.Table.Render

/-! The SQL of queries. -/

namespace SqlDdl

def SelectColumn.render (config : Config) (column : SelectColumn) : String :=
  withAlias config (column.expr.render config) column.aliasName

/-- The columns of a select as they are written. A text is written as it is. -/
def SelectColumns.render (config : Config) : SelectColumns → String
  | star text => text
  | list columns => commaList (columns.map (SelectColumn.render config))

def OrderItem.render (config : Config) (item : OrderItem) : String :=
  (Tokens.text (item.expr.render config) ++ .optWord item.order).join

/-- The limit as it is written. Without values there is none, and values after the second are not
written. -/
def Limit.render? (config : Config) (limit : Limit) : Option String :=
  match limit.values.map (Expr.render config) with
  | [] => none
  | [count] => some ("LIMIT " ++ count)
  | first :: second :: _ =>
    if limit.separator.bind keyword? = some "OFFSET" then
      some ("LIMIT " ++ first ++ " OFFSET " ++ second)
    else some ("LIMIT " ++ first ++ ", " ++ second)

namespace Select

/-- A keyword with the operand that follows it. -/
def clause (keyword operand : String) : Tokens :=
  .text keyword ++ .text operand

def tokens (config : Config) (select : Select) : Tokens :=
  .text "SELECT" ++ .marker "DISTINCT" select.distinct ++ .text (select.columns.render config)
    ++ .part select.source (fun tables => clause "FROM" (tables.render config))
    ++ .part select.condition (fun expr => clause "WHERE" (expr.render config))
    ++ .part (select.groupBy.filter (!·.isEmpty))
      (fun items => clause "GROUP BY" (Expr.renderList config items))
    ++ .part select.having (fun expr => clause "HAVING" (expr.render config))
    ++ .part (select.orderBy.filter (!·.isEmpty))
      (fun items => clause "ORDER BY" (commaList (items.map (OrderItem.render config))))
    ++ .opt (select.limit.bind (Limit.render? config))

/-- A single select as it is written, without its set operation. -/
def render (config : Config) (select : Select) : String :=
  (select.tokens config).join

/-- The set operation as it is written between this select and the next one. -/
def operation (select : Select) : String :=
  (select.setOperation.bind keyword?).getD "UNION"

end Select

namespace Query

/-- The tokens of the selects after a given one, each with the operation of the select before it. -/
def laterTokens (config : Config) (last : Select) : List Select → Tokens
  | [] => .empty
  | next :: later =>
    .text last.operation ++ .text (next.render config) ++ laterTokens config next later

def render (config : Config) (query : Query) : String :=
  (Tokens.text (query.first.render config) ++ laterTokens config query.first query.later).join

end Query

end SqlDdl
