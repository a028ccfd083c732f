import SqlDdl.Dialect
import SqlDdl.Text.Enclosed

/-! Identifiers and string literals. -/

namespace SqlDdl

/-- The words that cannot be identifiers unless they are quoted. -/
def reservedWords : List String := [
  "ALL", "ALTER", "ANALYSE", "ANALYZE", "AND", "ANY", "ARRAY", "AS", "ASC", "ASYMMETRIC",
  "BETWEEN", "BOTH", "BY", "CASE", "CAST", "CHECK", "COLLATE", "COLUMN", "CONSTRAINT", "CREATE",
  "CROSS", "CURRENT_DATE", "CURRENT_TIME", "CURRENT_TIMESTAMP", "CURRENT_USER", "DEFAULT",
  "DEFERRABLE", "DELETE", "DESC", "DISTINCT", "DO", "DROP", "ELSE", "END", "EXCEPT", "EXISTS",
  "FALSE", "FETCH", "FOR", "FOREIGN", "FROM", "FULL", "GRANT", "GROUP", "HAVING", "IN", "INDEX",
  "INITIALLY", "INNER", "INSERT", "INTERSECT", "INTO", "IS", "JOIN", "KEY", "LATERAL", "LEADING",
  "LEFT", "LIKE", "LIMIT", "LOCALTIME", "LOCALTIMESTAMP", "NATURAL", "NOT", "NULL", "OFFSET",
  "ON", "ONLY", "OR", "ORDER", "OUTER", "PLACING", "PRIMARY", "REFERENCES", "RETURNING", "RIGHT",
  "SELECT", "SESSION_USER", "SET", "SOME", "SYMMETRIC", "TABLE", "THEN", "TO", "TRAILING",
  "TRIGGER", "TRUE", "UNION", "UNIQUE", "UPDATE", "USER", "USING", "VALUES", "VARIADIC", "WHEN",
  "WHERE", "WINDOW", "WITH"]

/-- Whether a text is a reserved word, in any letter case. -/
def isReserved (text : String) : Bool :=
  reservedWords.contains (upper text)

/-- The characters at which a plain identifier begins. -/
def isPlainStart (c : Char) : Bool :=
  ('A' ≤ c && c ≤ 'Z') || ('a' ≤ c && c ≤ 'z') || c == '_'

/-- The characters of which a plain identifier consists. -/
def isPlainPart (c : Char) : Bool :=
  isPlainStart c || ('0' ≤ c && c ≤ '9') || c == '$'

/-- Whether a list of characters is a plain identifier. -/
def isPlain : List Char → Bool
  | [] => false
  | c :: cs => isPlainStart c && cs.all isPlainPart

/-- Whether an identifier must be quoted to be read back as the same one. -/
def needsQuoting (name : String) : Bool :=
  !isPlain name.toList || isReserved name

/-- The identifier between the quote characters of a dialect. -/
def wrapIdentifier (dialect : Dialect) (name : String) : String :=
  enclose dialect.openQuote dialect.closeQuote name

/-- Whether a configuration quotes an identifier. -/
def Config.quotes (config : Config) (name : String) : Bool :=
  match config.quoting with
  | .always => true
  | .never => false
  | .asNeeded => needsQuoting name

/-- The identifier as a configuration writes it. -/
def Config.quote (config : Config) (name : String) : String :=
  if config.quotes name then wrapIdentifier config.dialect name else name

/-- A string literal. -/
def stringLiteral (value : String) : String :=
  enclose '\'' '\'' value

end SqlDdl
