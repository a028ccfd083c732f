import SqlDdl.Expr.Basic
import SqlDdl.Identifier

/-! The SQL of expressions. -/

namespace SqlDdl

/-- Text between parentheses. -/
def parenthesized (text : String) : String :=
  "(" ++ text ++ ")"

/-- Text between parentheses where they are asked for. -/
def parenthesizedIf (wanted : Bool) (text : String) : String :=
  if wanted then parenthesized text else text

/-- Texts with a comma and a space between them. -/
def commaList (texts : List String) : String :=
  ", ".intercalate texts

/-- An optional name, where an empty one counts as absent. -/
def nonempty? (name : Option String) : Option String :=
  name.filter (· != "")

/-- The column as it is written, with its table if it names one. The star is not an identifier. -/
def ColumnRef.render (config : Config) (ref : ColumnRef) : String :=
  let column := if ref.column = "*" then "*" else config.quote ref.column
  match nonempty? ref.table with
  | some table => config.quote table ++ "." ++ column
  | none => column

/-- Columns with commas between them. -/
def ColumnRef.renderList (config : Config) (refs : List ColumnRef) : String :=
  commaList (refs.map (render config))

namespace Expr

/-- Whether an operator, in upper case, takes two bounds. -/
def isBetween (operator : String) : Bool :=
  operator == "BETWEEN" || operator == "NOT BETWEEN"

/-- An operand with the operator before it. Signs are written without a space. -/
def applyUnary (operator operand : String) : String :=
  if operator = "-" ∨ operator = "+" ∨ operator = "~" then operator ++ operand
  else if operator = "!" then "NOT " ++ operand
  else upper operator ++ " " ++ operand

mutual

/-- The expression as it is written. A range operator and a list of two expressions are written with
`AND` between these. -/
def render (config : Config) : Expr → String
  | column ref => ref.render config
  | number value => value.text
  | string value => stringLiteral value
  | quotedString value => enclose '"' '"' value
  | bool value => if value then "TRUE" else "FALSE"
  | null => "NULL"
  | star => "*"
  | param name => ":" ++ name
  | binary operator left (list [low, high]) parens =>
    let bounds :=
      if isBetween (upper operator) then low.render config ++ " AND " ++ high.render config
      else parenthesized (commaList [low.render config, high.render config])
    parenthesizedIf parens (left.render config ++ " " ++ upper operator ++ " " ++ bounds)
  | binary operator left right parens =>
    parenthesizedIf parens
      (left.render config ++ " " ++ upper operator ++ " " ++ right.render config)
  | unary operator operand parens =>
    parenthesizedIf parens (applyUnary operator (operand.render config))
  | call name none => name ++ "()"
  | call name (some args) => name ++ parenthesized (commaList (renderItems config args))
  | aggregate name argument distinct =>
    let operand := argument.render config
    upper name ++ parenthesized
      (match distinct.bind (Marker.keyword? "DISTINCT") with
        | some keyword => keyword ++ " " ++ operand
        | none => operand)
  | list items => parenthesized (commaList (renderItems config items))

/-- Expressions as they are written, each by itself. -/
def renderItems (config : Config) : List Expr → List String
  | [] => []
  | item :: items => item.render config :: renderItems config items

end

/-- Expressions with commas between them. -/
def renderList (config : Config) (items : List Expr) : String :=
  commaList (renderItems config items)

end Expr

/-- A call as it is written; the name is not an identifier. -/
def FunctionCall.render (config : Config) (function : FunctionCall) : String :=
  function.toExpr.render config

end SqlDdl
