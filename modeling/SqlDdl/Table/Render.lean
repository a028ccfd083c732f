import SqlDdl.Expr.Render
import SqlDdl.Table.Basic
import SqlDdl.Tokens

/-! The SQL of table references and table options. -/

namespace SqlDdl

/-- Two names with a point between them, or the second alone if the first is absent or empty. -/
def qualified (config : Config) (qualifier : Option String) (name : String) : String :=
  match nonempty? qualifier with
  | some qualifier => config.quote qualifier ++ "." ++ config.quote name
  | none => config.quote name

/-- A text with another name for it, if there is one that is not empty. -/
def withAlias (config : Config) (text : String) (aliasName : Option String) : String :=
  match nonempty? aliasName with
  | some aliasName => text ++ " AS " ++ config.quote aliasName
  | none => text

namespace TableRef

/-- The table as it is written by itself. -/
def render (config : Config) (ref : TableRef) : String :=
  withAlias config (qualified config ref.db ref.table) ref.aliasName

/-- How the table is joined to the one before it: by a condition, or else by the columns that they
share. -/
def joinTokens (config : Config) (ref : TableRef) : Tokens :=
  match ref.condition, ref.shared with
  | some condition, _ => .text "ON" ++ .text (condition.render config)
  | none, some columns =>
    .text "USING" ++ .text (parenthesized (commaList (columns.map config.quote)))
  | none, none => .empty

/-- The table as it is written after another one. -/
def renderNext (config : Config) (ref : TableRef) : String :=
  match ref.join with
  | some keyword =>
    " " ++ (Tokens.word keyword ++ .text (ref.render config) ++ ref.joinTokens config).join
  | none => ", " ++ ref.render config

end TableRef

def Tables.render (config : Config) (tables : Tables) : String :=
  match tables.toList with
  | [] => ""
  | first :: later => first.render config ++ String.join (later.map (TableRef.renderNext config))

/-- The value of an option as it is written. A text is written as it is. -/
def OptionValue.render (config : Config) : OptionValue → String
  | text value => value
  | number value => value.text
  | expr value => value.render config

def TableOption.render (config : Config) (option : TableOption) : String :=
  (Tokens.word option.keyword ++ .opt option.symbol ++ .text (option.value.render config)).join

end SqlDdl
