import SqlDdl.Error
import SqlDdl.Text.Case

/-! SQL dialects and the configuration of a renderer. -/

namespace SqlDdl

/-- A dialect of SQL. It decides how identifiers are quoted. -/
inductive Dialect where
  | ansi
  | mySql
  | mariaDb
  | postgres
  | sqlite
  | bigQuery
  | transactSql
deriving DecidableEq, Inhabited

namespace Dialect

/-- The character before a quoted identifier. -/
def openQuote : Dialect → Char
  | mySql | mariaDb | bigQuery => '\x60'
  | transactSql => '['
  | ansi | postgres | sqlite => '"'

/-- The character after a quoted identifier. -/
def closeQuote : Dialect → Char
  | mySql | mariaDb | bigQuery => '\x60'
  | transactSql => ']'
  | ansi | postgres | sqlite => '"'

/-- The names of the dialects in lower case. -/
def names : List (String × Dialect) := [
  ("ansi", ansi), ("", ansi), ("mysql", mySql), ("mariadb", mariaDb), ("postgresql", postgres),
  ("postgres", postgres), ("sqlite", sqlite), ("bigquery", bigQuery),
  ("transactsql", transactSql), ("mssql", transactSql), ("tsql", transactSql)]

/-- The dialect with a name, in any letter case. -/
def ofName (name : String) : Except Error Dialect :=
  match names.lookup (lower name) with
  | some dialect => .ok dialect
  | none => .error (.unknownDialect (lower name))

end Dialect

/-- When identifiers are quoted. -/
inductive Quoting where
  /-- Reserved words and names that are not plain. -/
  | asNeeded
  | always
  | never
deriving DecidableEq, Inhabited

/-- How a statement is written. -/
structure Config where
  dialect : Dialect := .ansi
  quoting : Quoting := .asNeeded
deriving DecidableEq, Inhabited

namespace Config

/-- The same configuration for another dialect. -/
def withDialect (config : Config) (dialect : Dialect) : Config :=
  { config with dialect }

/-- The same configuration with another quoting. -/
def withQuoting (config : Config) (quoting : Quoting) : Config :=
  { config with quoting }

/-- Quotes every identifier. -/
def alwaysQuote (config : Config) : Config :=
  config.withQuoting .always

/-- Quotes no identifier. -/
def neverQuote (config : Config) : Config :=
  config.withQuoting .never

end Config

end SqlDdl
