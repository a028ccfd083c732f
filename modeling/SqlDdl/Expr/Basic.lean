import SqlDdl.Keyword
import SqlDdl.Number.Basic

/-! Expressions. -/

namespace SqlDdl

/-- A reference to a column, which may name the table. -/
structure ColumnRef where
  table : Option String
  column : String
deriving DecidableEq

def ColumnRef.named (column : String) : ColumnRef := ⟨none, column⟩

def ColumnRef.withTable (ref : ColumnRef) (table : String) : ColumnRef :=
  { ref with table := some table }

inductive Expr where
  | column (ref : ColumnRef)
  | number (value : Number)
  | string (value : String)
  /-- A string between double quotes. -/
  | quotedString (value : String)
  | bool (value : Bool)
  | null
  | star
  /-- A named parameter. -/
  | param (name : String)
  | binary (operator : String) (left right : Expr) (parenthesized : Bool)
  | unary (operator : String) (operand : Expr) (parenthesized : Bool)
  | call (name : String) (args : Option (List Expr))
  | aggregate (name : String) (argument : Expr) (distinct : Option Marker)
  | list (items : List Expr)

namespace Expr

/-- Whether the expression is written between parentheses of its own. -/
def isParenthesized : Expr → Bool
  | binary _ _ _ parenthesized => parenthesized
  | unary _ _ parenthesized => parenthesized
  | _ => false

mutual

/-- Whether two expressions are equal, where numbers are compared by value. -/
def same : Expr → Expr → Bool
  | column a, column b => a == b
  | number a, number b => a == b
  | string a, string b => a == b
  | quotedString a, quotedString b => a == b
  | bool a, bool b => a == b
  | null, null => true
  | star, star => true
  | param a, param b => a == b
  | binary op left right paren, binary op' left' right' paren' =>
    op == op' && left.same left' && right.same right' && paren == paren'
  | unary op operand paren, unary op' operand' paren' =>
    op == op' && operand.same operand' && paren == paren'
  | call name none, call name' none => name == name'
  | call name (some args), call name' (some args') => name == name' && sameItems args args'
  | aggregate name argument distinct, aggregate name' argument' distinct' =>
    name == name' && argument.same argument' && distinct == distinct'
  | list items, list items' => sameItems items items'
  | _, _ => false

/-- Whether two lists have equal expressions at equal places. -/
def sameItems : List Expr → List Expr → Bool
  | [], [] => true
  | a :: as, b :: bs => a.same b && sameItems as bs
  | _, _ => false

end

instance : BEq Expr := ⟨same⟩

end Expr

/-- A call of a function that stands by itself. -/
structure FunctionCall where
  name : String
  args : Option (List Expr)
deriving BEq

def FunctionCall.toExpr (function : FunctionCall) : Expr :=
  .call function.name function.args

end SqlDdl
