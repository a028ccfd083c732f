import SqlDdl.Json.Basic

/-! Reading JSON text. Every function returns what it has read and the characters after it, and `none`
when the text is not JSON. -/

namespace SqlDdl.Json

/-- The blanks of JSON. -/
def isSpace (c : Char) : Bool :=
  c == ' ' || c == '\t' || c == '\n' || c == '\r'

/-- The value of a decimal digit. -/
def decimalDigit? (c : Char) : Option Nat :=
  if '0' ≤ c && c ≤ '9' then some (c.toNat - '0'.toNat) else none

/-- The value of a hexadecimal digit. -/
def hexDigit? (c : Char) : Option Nat :=
  if '0' ≤ c && c ≤ '9' then some (c.toNat - '0'.toNat)
  else if 'a' ≤ c && c ≤ 'f' then some (c.toNat - 'a'.toNat + 10)
  else if 'A' ≤ c && c ≤ 'F' then some (c.toNat - 'A'.toNat + 10)
  else none

/-- The value of four hexadecimal digits. -/
def hexValue? (a b c d : Char) : Option Nat := do
  some (((← hexDigit? a) * 16 + (← hexDigit? b)) * 256 + (← hexDigit? c) * 16 + (← hexDigit? d))

/-- The character of a one-letter escape. -/
def escapedChar? : Char → Option Char
  | '"' => some '"'
  | '\\' => some '\\'
  | '/' => some '/'
  | 'b' => some '\x08'
  | 'f' => some '\x0c'
  | 'n' => some '\n'
  | 'r' => some '\r'
  | 't' => some '\t'
  | _ => none

/-- Puts a character in front of what has been read. -/
def consChar (c : Char) (read : List Char × List Char) : List Char × List Char :=
  (c :: read.1, read.2)

/-- Reads the inside of a string and its closing quote. A code unit of the upper surrogates must be
followed by an escaped one of the lower surrogates, which never stands alone. -/
def readString : List Char → Option (List Char × List Char)
  | '"' :: rest => some ([], rest)
  | '\\' :: 'u' :: a :: b :: c :: d :: rest => do
    let unit ← hexValue? a b c d
    if 0xD800 ≤ unit && unit ≤ 0xDBFF then
      match rest with
      | '\\' :: 'u' :: e :: f :: g :: h :: rest =>
        let second ← hexValue? e f g h
        if 0xDC00 ≤ second && second ≤ 0xDFFF then
          let point := 0x10000 + (unit - 0xD800) * 0x400 + (second - 0xDC00)
          (readString rest).map (consChar (Char.ofNat point))
        else none
      | _ => none
    else if 0xDC00 ≤ unit && unit ≤ 0xDFFF then none
    else (readString rest).map (consChar (Char.ofNat unit))
  | '\\' :: c :: rest => do
    let read ← escapedChar? c
    (readString rest).map (consChar read)
  | c :: rest =>
    if c == '\\' || c.toNat < 0x20 then none else (readString rest).map (consChar c)
  | [] => none

/-- Reads as many digits as there are. -/
def readDigits : List Char → List Nat × List Char
  | [] => ([], [])
  | c :: rest =>
    match decimalDigit? c with
    | some digit =>
      let (digits, rest) := readDigits rest
      (digit :: digits, rest)
    | none => ([], c :: rest)

/-- Reads at least one digit. -/
def readSomeDigits (cs : List Char) : Option (List Nat × List Char) :=
  match readDigits cs with
  | ([], _) => none
  | read => some read

/-- Reads the whole part of a number: a zero that no digit follows, or digits that begin with another
one. -/
def readWhole (cs : List Char) : Option (List Nat × List Char) := do
  let read ← readSomeDigits cs
  if read.1.length ≠ 1 && read.1.head? == some 0 then none else some read

/-- Reads the fraction of a number, if there is a point. -/
def readFraction : List Char → Option (Option (List Nat) × List Char)
  | '.' :: rest => do
    let (digits, rest) ← readSomeDigits rest
    some (some digits, rest)
  | rest => some (none, rest)

/-- Reads the exponent of a number, if there is one. -/
def readExponent : List Char → Option (Option Int × List Char)
  | c :: rest =>
    if c == 'e' || c == 'E' then do
      let (negative, rest) :=
        match rest with
        | '-' :: rest => (true, rest)
        | '+' :: rest => (false, rest)
        | _ => (false, rest)
      let (digits, rest) ← readSomeDigits rest
      let size : Int := Number.ofDigits digits
      some (some (if negative then -size else size), rest)
    else some (none, c :: rest)
  | [] => some (none, [])

/-- Reads a number without its sign. A number that is not finite is an error. -/
def readNumber (negative : Bool) (cs : List Char) : Option (Json × List Char) := do
  let (whole, rest) ← readWhole cs
  let (fraction, rest) ← readFraction rest
  let (exponent, rest) ← readExponent rest
  let value ← Number.ofLiteral? ⟨negative, whole, fraction, exponent⟩
  some (number value, rest)

/-- Reads a value that begins with a letter, a sign or a digit. -/
def readScalar : List Char → Option (Json × List Char)
  | 'n' :: 'u' :: 'l' :: 'l' :: rest => some (null, rest)
  | 't' :: 'r' :: 'u' :: 'e' :: rest => some (bool true, rest)
  | 'f' :: 'a' :: 'l' :: 's' :: 'e' :: rest => some (bool false, rest)
  | '-' :: rest => readNumber true rest
  | rest => readNumber false rest

mutual

/-- Reads a value. `levels` is the number of arrays and objects that may still be opened inside one
another; `fuel` bounds the calls. -/
def readValue : (fuel levels : Nat) → List Char → Option (Json × List Char)
  | 0, _, _ => none
  | fuel + 1, levels, cs =>
    match cs.dropWhile isSpace with
    | '"' :: rest => (readString rest).map fun read => (string (String.ofList read.1), read.2)
    | '[' :: rest =>
      match levels with
      | 0 => none
      | levels + 1 =>
        match rest.dropWhile isSpace with
        | ']' :: rest => some (array [], rest)
        | rest => (readItems fuel levels rest).map fun read => (array read.1, read.2)
    | '\x7b' :: rest =>
      match levels with
      | 0 => none
      | levels + 1 =>
        match rest.dropWhile isSpace with
        | '\x7d' :: rest => some (object [], rest)
        | rest =>
          (readEntries fuel levels rest).map fun read => (object (sortEntries read.1), read.2)
    | rest => readScalar rest

/-- Reads the items of an array and its closing bracket. -/
def readItems : (fuel levels : Nat) → List Char → Option (List Json × List Char)
  | 0, _, _ => none
  | fuel + 1, levels, cs => do
    let (item, rest) ← readValue fuel levels cs
    match rest.dropWhile isSpace with
    | ',' :: rest =>
      let (items, rest) ← readItems fuel levels rest
      some (item :: items, rest)
    | ']' :: rest => some ([item], rest)
    | _ => none

/-- Reads the entries of an object, as they come, and its closing brace. -/
def readEntries : (fuel levels : Nat) → List Char → Option (List (String × Json) × List Char)
  | 0, _, _ => none
  | fuel + 1, levels, cs =>
    match cs.dropWhile isSpace with
    | '"' :: rest => do
      let (key, rest) ← readString rest
      match rest.dropWhile isSpace with
      | ':' :: rest =>
        let (value, rest) ← readValue fuel levels rest
        match rest.dropWhile isSpace with
        | ',' :: rest =>
          let (entries, rest) ← readEntries fuel levels rest
          some ((String.ofList key, value) :: entries, rest)
        | '\x7d' :: rest => some ([(String.ofList key, value)], rest)
        | _ => none
      | _ => none
    | _ => none

end

/-- Reads the value at the beginning of a text, in which at most `levels` arrays and objects lie inside
one another. Every second call at least passes a character, so that twice the length is fuel enough. -/
def readLeading (levels : Nat) (text : String) : Option (Json × List Char) :=
  readValue (2 * text.length + 2) levels text.toList

end SqlDdl.Json
