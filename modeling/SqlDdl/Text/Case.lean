import SqlDdl.Text.CaseTable

/-! Full upper and lower case, without regard to language. -/

namespace SqlDdl

/-- Whether a code point lies in one of the intervals, whose ends belong to them. -/
def inIntervals (intervals : List (Nat × Nat)) (n : Nat) : Bool :=
  intervals.any fun interval => interval.1 ≤ n && n ≤ interval.2

/-- The image of a character outside ASCII: an expansion if it has one, else its place on a run,
else the character itself. -/
def mapCase (runs : List CaseRun) (expansions : List (Nat × List Nat)) (c : Char) : List Char :=
  match expansions.lookup c.toNat with
  | some images => images.map Char.ofNat
  | none =>
    match runs.findSome? (·.image? c.toNat) with
    | some image => [Char.ofNat image]
    | none => [c]

/-- The upper case of one character, which may have up to three characters. -/
def upperChar (c : Char) : List Char :=
  if c.toNat < 128 then [c.toUpper] else mapCase upperRuns upperExpansions c

/-- The lower case of one character that stands alone. -/
def lowerChar (c : Char) : List Char :=
  if c.toNat < 128 then [c.toLower] else mapCase lowerRuns lowerExpansions c

/-- The upper case of a list of characters, each by itself. -/
def upperChars (cs : List Char) : List Char :=
  cs.flatMap upperChar

/-- Whether the first character that is not case-ignorable is cased. -/
def meetsCased (cs : List Char) : Bool :=
  match cs.dropWhile (fun c => inIntervals caseIgnorableIntervals c.toNat) with
  | [] => false
  | c :: _ => inIntervals casedIntervals c.toNat

/-- The lower case of a list of characters. A capital sigma becomes a final one if a cased
character comes before it and none after it. The first argument holds the characters that have been
passed, the last one first. -/
def lowerCharsAfter (passed : List Char) : List Char → List Char
  | [] => []
  | c :: cs =>
    let image :=
      if c = 'Σ' then
        if meetsCased passed && !meetsCased cs then ['ς'] else ['σ']
      else lowerChar c
    image ++ lowerCharsAfter (c :: passed) cs

/-- The text in upper case. -/
def upper (text : String) : String :=
  String.ofList (upperChars text.toList)

/-- The text in lower case. -/
def lower (text : String) : String :=
  String.ofList (lowerCharsAfter [] text.toList)

end SqlDdl
