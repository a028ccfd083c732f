import SqlDdl.Text.Case
import SqlDdl.Text.EscapeTable

/-! A text as it is shown inside an error message. -/

namespace SqlDdl

/-- One character of a shown text: quotes, backslashes and the common control characters have short
escapes, and other characters that would not be seen are written by their number. -/
def escapeChar (c : Char) : List Char :=
  match c with
  | '"' => ['\\', '"']
  | '\\' => ['\\', '\\']
  | '\n' => ['\\', 'n']
  | '\r' => ['\\', 'r']
  | '\t' => ['\\', 't']
  | '\x00' => ['\\', '0']
  | _ =>
    if inIntervals escapedIntervals c.toNat then
      ['\\', 'u', '\x7b'] ++ Nat.toDigits 16 c.toNat ++ ['\x7d']
    else [c]

/-- The text between double quotes, with its escapes. -/
def showText (text : String) : String :=
  String.ofList ('"' :: text.toList.flatMap escapeChar ++ ['"'])

end SqlDdl
