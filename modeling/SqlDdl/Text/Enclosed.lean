/-! Text between quote characters. -/

namespace SqlDdl

/-- Writes every `quote` twice. -/
def doubleChars (quote : Char) (cs : List Char) : List Char :=
  cs.flatMap fun c => if c = quote then [c, c] else [c]

/-- The text between an opening and a closing quote, with every closing quote inside written twice. -/
def enclose (opening closing : Char) (text : String) : String :=
  String.ofList (opening :: doubleChars closing text.toList ++ [closing])

end SqlDdl
