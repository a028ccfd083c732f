import SqlDdl.Json.Basic

/-! The compact text of a JSON value. -/

namespace SqlDdl.Json

/-- Four hexadecimal digits. -/
def hexCode (n : Nat) : List Char :=
  [n / 4096 % 16, n / 256 % 16, n / 16 % 16, n % 16].map Nat.digitChar

/-- One character of a JSON string. Characters from U+007F on and the slash are written as they are. -/
def printChar (c : Char) : List Char :=
  match c with
  | '"' => ['\\', '"']
  | '\\' => ['\\', '\\']
  | '\x08' => ['\\', 'b']
  | '\t' => ['\\', 't']
  | '\n' => ['\\', 'n']
  | '\x0c' => ['\\', 'f']
  | '\r' => ['\\', 'r']
  | _ => if c.toNat < 0x20 then '\\' :: 'u' :: hexCode c.toNat else [c]

/-- A JSON string with its quotes. -/
def printString (text : String) : String :=
  String.ofList ('"' :: text.toList.flatMap printChar ++ ['"'])

mutual

/-- The text of a value without blanks between its parts. -/
def compact : Json → String
  | null => "null"
  | bool value => if value then "true" else "false"
  | number value => value.text
  | string value => printString value
  | array items => "[" ++ ",".intercalate (compactItems items) ++ "]"
  | object entries => "\x7b" ++ ",".intercalate (compactEntries entries) ++ "\x7d"

/-- The texts of a list of values. -/
def compactItems : List Json → List String
  | [] => []
  | item :: items => item.compact :: compactItems items

/-- The texts of some entries. -/
def compactEntries : List (String × Json) → List String
  | [] => []
  | (key, value) :: entries => (printString key ++ ":" ++ value.compact) :: compactEntries entries

end

/-- The text of a value that tells a kind: the text that it is, or its compact text. -/
def keywordText : Json → String
  | string text => text
  | other => other.compact

end SqlDdl.Json
