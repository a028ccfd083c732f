/-! Blank characters, trimming and splitting into words. -/

namespace SqlDdl

/-- The characters with the Unicode property `White_Space`. The zero-width characters and the
separators of the C0 block from U+001C to U+001F do not have it. -/
def isBlank (c : Char) : Bool :=
  let n := c.toNat
  (9 ≤ n && n ≤ 13) || n == 0x20 || n == 0x85 || n == 0xA0 || n == 0x1680 ||
    (0x2000 ≤ n && n ≤ 0x200A) || n == 0x2028 || n == 0x2029 || n == 0x202F || n == 0x205F ||
    n == 0x3000

/-- Drops the blanks at both ends. -/
def trimChars (cs : List Char) : List Char :=
  ((cs.dropWhile isBlank).reverse.dropWhile isBlank).reverse

/-- The maximal runs of characters that are not blank, in order. -/
def splitWords : List Char → List (List Char)
  | [] => []
  | c :: cs =>
    if isBlank c then splitWords cs
    else if cs.head?.all isBlank then [c] :: splitWords cs
    else
      match splitWords cs with
      | [] => [[c]]
      | word :: later => (c :: word) :: later

/-- The text without the blanks at its ends. -/
def trim (text : String) : String :=
  String.ofList (trimChars text.toList)

/-- The words of a text, in order. -/
def words (text : String) : List String :=
  (splitWords text.toList).map String.ofList

/-- Whether a text holds any character that is not blank. -/
def hasText (text : String) : Bool :=
  text.toList.any (!isBlank ·)

end SqlDdl
