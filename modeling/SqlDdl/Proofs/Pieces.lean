import SqlDdl.Identifier
import SqlDdl.Proofs.Upper

/-! A scanner of SQL texts. It tells quoted tokens from the characters between them and knows nothing of
how a text was written. -/

namespace SqlDdl

/-- The kinds of quotes around a token. -/
inductive Quote where
  | single
  | double
  | back
  | bracket
deriving DecidableEq

namespace Quote

/-- The character before a token. -/
def opening : Quote → Char
  | single => '\''
  | double => '"'
  | back => '\x60'
  | bracket => '['

/-- The character after a token. Inside the token it is written twice. -/
def closing : Quote → Char
  | single => '\''
  | double => '"'
  | back => '\x60'
  | bracket => ']'

end Quote

/-- A piece of a text: a character outside of quotes, or a quoted token with its content. -/
inductive Piece where
  | bare (c : Char)
  | quoted (quote : Quote) (content : List Char)
deriving DecidableEq

/-- The characters of a piece. -/
def Piece.chars : Piece → List Char
  | bare c => [c]
  | quoted quote content => quote.opening :: doubleChars quote.closing content ++ [quote.closing]

/-- Reads the content of a token up to its closing quote, and returns what follows it. -/
def takeQuoted (closing : Char) : List Char → Option (List Char × List Char)
  | [] => none
  | c :: cs =>
    if c = closing then
      match cs with
      | [] => some ([], [])
      | d :: ds =>
        if d = closing then (takeQuoted closing ds).map fun read => (closing :: read.1, read.2)
        else some ([], d :: ds)
    else (takeQuoted closing cs).map fun read => (c :: read.1, read.2)

theorem takeQuoted_other {closing c : Char} (other : c ≠ closing) (cs : List Char) :
    takeQuoted closing (c :: cs) =
      (takeQuoted closing cs).map fun read => (c :: read.1, read.2) := by
  cases cs <;> simp only [takeQuoted, if_neg other]

theorem takeQuoted_doubled (closing : Char) (cs : List Char) :
    takeQuoted closing (closing :: closing :: cs) =
      (takeQuoted closing cs).map fun read => (closing :: read.1, read.2) := by
  simp only [takeQuoted, if_true]

theorem takeQuoted_closing {closing : Char} {cs : List Char} (single : cs.head? ≠ some closing) :
    takeQuoted closing (closing :: cs) = some ([], cs) := by
  cases cs with
  | nil => simp only [takeQuoted, if_true]
  | cons d ds =>
    have other : d ≠ closing := fun same => single (same ▸ rfl)
    simp only [takeQuoted, if_true, if_neg other]

theorem takeQuoted_shorter {closing : Char} {cs content rest : List Char}
    (read : takeQuoted closing cs = some (content, rest)) : rest.length < cs.length := by
  fun_induction takeQuoted closing cs generalizing content with
  | case1 => cases read
  | case2 => cases read; simp
  | case3 ds ih =>
    obtain ⟨⟨inner, after⟩, found, same⟩ := Option.map_eq_some_iff.mp read
    cases same
    have shorter : after.length < ds.length := ih found
    simp only [List.length_cons]
    omega
  | case4 => cases read; simp
  | case5 c cs _ ih =>
    obtain ⟨⟨inner, after⟩, found, same⟩ := Option.map_eq_some_iff.mp read
    cases same
    have shorter : after.length < cs.length := ih found
    simp only [List.length_cons]
    omega

theorem eq_of_takeQuoted {closing : Char} {cs content rest : List Char}
    (read : takeQuoted closing cs = some (content, rest)) :
    cs = doubleChars closing content ++ closing :: rest := by
  fun_induction takeQuoted closing cs generalizing content with
  | case1 => cases read
  | case2 =>
    cases read
    rfl
  | case3 ds ih =>
    obtain ⟨⟨inner, after⟩, found, same⟩ := Option.map_eq_some_iff.mp read
    cases same
    simp only [doubleChars, List.flatMap_cons, if_true, List.cons_append, List.nil_append, ih found]
  | case4 =>
    cases read
    rfl
  | case5 c cs other ih =>
    obtain ⟨⟨inner, after⟩, found, same⟩ := Option.map_eq_some_iff.mp read
    cases same
    simp only [doubleChars, List.flatMap_cons, if_neg other, List.cons_append, List.nil_append, ih found]

namespace Dialect

/-- The quotes around an identifier. -/
def quote : Dialect → Quote
  | mySql | mariaDb | bigQuery => .back
  | transactSql => .bracket
  | ansi | postgres | sqlite => .double

theorem openQuote_eq (dialect : Dialect) : dialect.openQuote = dialect.quote.opening := by
  cases dialect <;> rfl

theorem closeQuote_eq (dialect : Dialect) : dialect.closeQuote = dialect.quote.closing := by
  cases dialect <;> rfl

/-- The quotes that a character opens outside of quotes. -/
def quoteAt? (dialect : Dialect) (c : Char) : Option Quote :=
  if c = '\'' then some .single
  else if c = '"' then some .double
  else if c = dialect.openQuote then some dialect.quote
  else none

theorem opening_of_quoteAt? {dialect : Dialect} {c : Char} {quote : Quote}
    (opens : dialect.quoteAt? c = some quote) : quote.opening = c := by
  simp only [quoteAt?] at opens
  split at opens
  · rename_i same
    cases opens
    exact same.symm
  · split at opens
    · rename_i same
      cases opens
      exact same.symm
    · split at opens
      · rename_i same
        cases opens
        rw [same, openQuote_eq]
      · cases opens

/-- The pieces of a text, unless it ends inside of quotes. -/
def pieces? (dialect : Dialect) : List Char → Option (List Piece)
  | [] => some []
  | c :: cs =>
    match dialect.quoteAt? c with
    | none => (pieces? dialect cs).map (.bare c :: ·)
    | some quote =>
      match _taken : takeQuoted quote.closing cs with
      | none => none
      | some (content, rest) => (pieces? dialect rest).map (.quoted quote content :: ·)
termination_by cs => cs.length
decreasing_by
  · simp
  · have shorter := takeQuoted_shorter _taken
    simp only [List.length_cons]
    omega

end Dialect

/-- The characters that open or close a quoted token. -/
def quoteMarks : List Char := ['\'', '"', '\x60', '[', ']']

/-- Whether a text can follow a token and leave it as it is: it does not begin with a closing quote. -/
def isClear : List Char → Bool
  | [] => true
  | c :: _ => c != '\'' && c != '"' && c != '\x60' && c != ']'

theorem head_ne_closing_of_isClear {cs : List Char} (clear : isClear cs = true) (quote : Quote) :
    cs.head? ≠ some quote.closing := by
  cases cs with
  | nil => simp
  | cons c cs =>
    simp only [isClear, Bool.and_eq_true, bne_iff_ne, ne_eq] at clear
    obtain ⟨⟨⟨single, double⟩, back⟩, bracket⟩ := clear
    cases quote <;> simpa only [List.head?_cons, ne_eq, Option.some.injEq]

/-- A token is read in the same way before any text that can follow it. -/
theorem takeQuoted_append {quote : Quote} {cs content rest later : List Char}
    (read : takeQuoted quote.closing cs = some (content, rest)) (clear : isClear later = true) :
    takeQuoted quote.closing (cs ++ later) = some (content, rest ++ later) := by
  fun_induction takeQuoted quote.closing cs generalizing content with
  | case1 => cases read
  | case2 =>
    cases read
    exact takeQuoted_closing (head_ne_closing_of_isClear clear quote)
  | case3 ds ih =>
    obtain ⟨⟨inner, after⟩, found, same⟩ := Option.map_eq_some_iff.mp read
    cases same
    rw [List.cons_append, List.cons_append, takeQuoted_doubled, ih found]
    rfl
  | case4 d ds other =>
    cases read
    exact takeQuoted_closing fun same => other (Option.some.inj same)
  | case5 c cs other ih =>
    obtain ⟨⟨inner, after⟩, found, same⟩ := Option.map_eq_some_iff.mp read
    cases same
    rw [List.cons_append, takeQuoted_other other, ih found]
    rfl

theorem takeQuoted_doubleChars (quote : Quote) (value : List Char) {later : List Char}
    (clear : isClear later = true) :
    takeQuoted quote.closing (doubleChars quote.closing value ++ quote.closing :: later) =
      some (value, later) := by
  induction value with
  | nil => exact takeQuoted_closing (head_ne_closing_of_isClear clear quote)
  | cons c value ih =>
    simp only [doubleChars, List.flatMap_cons] at ih ⊢
    by_cases closes : c = quote.closing
    · simp only [closes, if_true, List.cons_append, List.nil_append, takeQuoted_doubled, ih, Option.map_some]
    · simp only [closes, if_false, List.cons_append, List.nil_append, takeQuoted_other closes, ih,
        Option.map_some]

theorem closing_ne_of_isBlank {c : Char} (blank : isBlank c = true) (quote : Quote) :
    c ≠ quote.closing := by
  rintro rfl
  exact absurd blank (by cases quote <;> decide)

theorem isClear_of_isBlank {cs : List Char} (blank : ∀ c ∈ cs, isBlank c = true) :
    isClear cs = true := by
  cases cs with
  | nil => rfl
  | cons c cs =>
    have apart := closing_ne_of_isBlank (blank c List.mem_cons_self)
    simp only [isClear, Bool.and_eq_true, bne_iff_ne, ne_eq]
    exact ⟨⟨⟨apart .single, apart .double⟩, apart .back⟩, apart .bracket⟩

theorem takeQuoted_eq_none {closing : Char} {cs : List Char} (absent : closing ∉ cs) :
    takeQuoted closing cs = none := by
  induction cs with
  | nil => rfl
  | cons c cs ih =>
    rw [List.mem_cons, not_or] at absent
    rw [takeQuoted_other (Ne.symm absent.1), ih absent.2]
    rfl

theorem takeQuoted_append_eq_none {closing : Char} {cs later : List Char}
    (untaken : takeQuoted closing cs = none) (absent : closing ∉ later) :
    takeQuoted closing (cs ++ later) = none := by
  fun_induction takeQuoted closing cs with
  | case1 => exact takeQuoted_eq_none absent
  | case2 => cases untaken
  | case3 ds ih =>
    rw [List.cons_append, List.cons_append, takeQuoted_doubled, ih (Option.map_eq_none_iff.mp untaken)]
    rfl
  | case4 => cases untaken
  | case5 c cs other ih =>
    rw [List.cons_append, takeQuoted_other other, ih (Option.map_eq_none_iff.mp untaken)]
    rfl

namespace Dialect

variable {dialect : Dialect}

theorem pieces?_nil : dialect.pieces? [] = some [] := by
  rw [pieces?]

theorem pieces?_bare {c : Char} (bare : dialect.quoteAt? c = none) (cs : List Char) :
    dialect.pieces? (c :: cs) = (dialect.pieces? cs).map (.bare c :: ·) := by
  rw [pieces?, bare]

theorem pieces?_untaken {c : Char} {quote : Quote} {cs : List Char}
    (opens : dialect.quoteAt? c = some quote) (untaken : takeQuoted quote.closing cs = none) :
    dialect.pieces? (c :: cs) = none := by
  rw [pieces?, opens]
  simp only
  split
  · rfl
  · rename_i found
    rw [untaken] at found
    cases found

theorem pieces?_quoted {c : Char} {quote : Quote} {cs content rest : List Char}
    (opens : dialect.quoteAt? c = some quote)
    (taken : takeQuoted quote.closing cs = some (content, rest)) :
    dialect.pieces? (c :: cs) = (dialect.pieces? rest).map (.quoted quote content :: ·) := by
  rw [pieces?, opens]
  simp only
  split
  · rename_i untaken
    rw [taken] at untaken
    cases untaken
  · rename_i found
    rw [taken] at found
    cases found
    rfl

/-- The pieces of a text, put together again, are the text. -/
theorem pieces?_chars {cs : List Char} {pieces : List Piece} (read : dialect.pieces? cs = some pieces) :
    pieces.flatMap Piece.chars = cs := by
  fun_induction pieces? dialect cs generalizing pieces with
  | case1 => cases read; rfl
  | case2 c cs bare ih =>
    obtain ⟨later, found, rfl⟩ := Option.map_eq_some_iff.mp read
    rw [List.flatMap_cons, ih found]
    rfl
  | case3 => cases read
  | case4 c cs quote opens content rest taken ih =>
    obtain ⟨later, found, rfl⟩ := Option.map_eq_some_iff.mp read
    rw [List.flatMap_cons, ih found, Piece.chars, opening_of_quoteAt? opens, eq_of_takeQuoted taken]
    simp only [List.cons_append, List.append_assoc, List.nil_append]

/-- The first piece of a text is a character if and only if the text begins with it, unless it can be a
quote. -/
theorem head?_pieces? {cs : List Char} {pieces : List Piece} {c : Char}
    (read : dialect.pieces? cs = some pieces) (bare : c ∉ quoteMarks) :
    pieces.head? = some (.bare c) ↔ cs.head? = some c := by
  rw [← Dialect.pieces?_chars read]
  cases pieces with
  | nil => simp
  | cons piece pieces =>
    cases piece with
    | bare d => simp [Piece.chars]
    | quoted quote content =>
      have other : quote.opening ≠ c := by
        rintro rfl
        exact bare (by cases quote <;> decide)
      simp [Piece.chars, other]

/-- The pieces of a text are followed by those of a text that can follow its last token. -/
theorem pieces?_append {first second : List Char} {pieces : List Piece}
    (read : dialect.pieces? first = some pieces) (clear : isClear second = true) :
    dialect.pieces? (first ++ second) = (dialect.pieces? second).map (pieces ++ ·) := by
  fun_induction pieces? dialect first generalizing pieces with
  | case1 => cases read; simp
  | case2 c cs bare ih =>
    obtain ⟨later, found, rfl⟩ := Option.map_eq_some_iff.mp read
    rw [List.cons_append, pieces?_bare bare, ih found, Option.map_map]
    rfl
  | case3 => cases read
  | case4 c cs quote opens content rest taken ih =>
    obtain ⟨later, found, rfl⟩ := Option.map_eq_some_iff.mp read
    rw [List.cons_append, pieces?_quoted opens (takeQuoted_append taken clear), ih found,
      Option.map_map]
    rfl

theorem pieces?_bare_append {front : List Char} (bare : ∀ c ∈ front, dialect.quoteAt? c = none)
    (cs : List Char) :
    dialect.pieces? (front ++ cs) = (dialect.pieces? cs).map (front.map .bare ++ ·) := by
  induction front with
  | nil => simp
  | cons c front ih =>
    rw [List.cons_append, pieces?_bare (bare c List.mem_cons_self),
      ih fun d member => bare d (List.mem_cons_of_mem _ member), Option.map_map]
    rfl

theorem pieces?_map_bare {cs : List Char} (bare : ∀ c ∈ cs, dialect.quoteAt? c = none) :
    dialect.pieces? cs = some (cs.map .bare) := by
  have read := pieces?_bare_append bare []
  rwa [List.append_nil, pieces?_nil, Option.map_some, List.append_nil] at read

theorem quoteAt?_eq_none {c : Char} (single : c ≠ '\'') (double : c ≠ '"') (back : c ≠ '\x60')
    (bracket : c ≠ '[') : dialect.quoteAt? c = none := by
  have other : c ≠ dialect.openQuote := by cases dialect <;> assumption
  simp only [quoteAt?, if_neg single, if_neg double, if_neg other]

theorem quoteAt?_of_not_mem {c : Char} (clean : c ∉ quoteMarks) : dialect.quoteAt? c = none := by
  simp only [quoteMarks, List.mem_cons, not_or] at clean
  obtain ⟨single, double, back, bracket, _⟩ := clean
  exact quoteAt?_eq_none single double back bracket

theorem quoteAt?_blank {c : Char} (blank : isBlank c = true) : dialect.quoteAt? c = none := by
  apply quoteAt?_eq_none <;>
  · rintro rfl
    exact absurd blank (by decide)

/-- A text without quote characters is read one character at a time. -/
theorem pieces?_plainAppend {first : String} (clean : Without quoteMarks first) (second : String) :
    dialect.pieces? (first ++ second).toList =
      (dialect.pieces? second.toList).map (first.toList.map .bare ++ ·) := by
  rw [String.toList_append]
  exact pieces?_bare_append (fun c member => quoteAt?_of_not_mem (clean c member)) _

/-- A single token is read as such, whatever its content is. -/
theorem pieces?_enclose {quote : Quote} (opens : dialect.quoteAt? quote.opening = some quote)
    (value : String) :
    dialect.pieces? (enclose quote.opening quote.closing value).toList =
      some [.quoted quote value.toList] := by
  have taken : takeQuoted quote.closing (doubleChars quote.closing value.toList ++ [quote.closing]) =
      some (value.toList, []) := takeQuoted_doubleChars quote value.toList rfl
  rw [enclose, String.toList_ofList, List.cons_append, pieces?_quoted opens taken, pieces?_nil]
  rfl

theorem quoteAt?_single : dialect.quoteAt? '\'' = some .single := rfl

theorem quoteAt?_double : dialect.quoteAt? '"' = some .double := rfl

theorem quoteAt?_quote : dialect.quoteAt? dialect.quote.opening = some dialect.quote := by
  cases dialect <;> rfl

/-- Blanks after a text are read as such: they cannot close a token. -/
theorem pieces?_of_append_blank {cs blanks : List Char} {pieces : List Piece}
    (read : dialect.pieces? (cs ++ blanks) = some pieces) (blank : ∀ c ∈ blanks, isBlank c = true) :
    ∃ before, dialect.pieces? cs = some before ∧ pieces = before ++ blanks.map .bare := by
  fun_induction pieces? dialect cs generalizing pieces with
  | case1 =>
    rw [List.nil_append, pieces?_map_bare fun c member => quoteAt?_blank (blank c member)] at read
    exact ⟨[], rfl, (Option.some.inj read).symm⟩
  | case2 c cs bare ih =>
    rw [List.cons_append, pieces?_bare bare] at read
    obtain ⟨later, found, rfl⟩ := Option.map_eq_some_iff.mp read
    obtain ⟨before, same, rfl⟩ := ih found
    exact ⟨.bare c :: before, by rw [same]; rfl, rfl⟩
  | case3 c cs quote opens untaken =>
    -- A token that is open at the end of the text is still open after the blanks.
    have absent : quote.closing ∉ blanks := fun member =>
      closing_ne_of_isBlank (blank _ member) quote rfl
    rw [List.cons_append, pieces?_untaken opens (takeQuoted_append_eq_none untaken absent)] at read
    cases read
  | case4 c cs quote opens content rest taken ih =>
    have clear := isClear_of_isBlank blank
    rw [List.cons_append, pieces?_quoted opens (takeQuoted_append taken clear)] at read
    obtain ⟨later, found, rfl⟩ := Option.map_eq_some_iff.mp read
    obtain ⟨before, same, rfl⟩ := ih found
    exact ⟨.quoted quote content :: before, by rw [same]; rfl, rfl⟩

/-- Trimming takes only bare blanks away. -/
theorem pieces?_trim {text : String} {pieces : List Piece}
    (read : dialect.pieces? text.toList = some pieces) :
    ∃ (before after : List Char) (inner : List Piece),
      dialect.pieces? (trim text).toList = some inner ∧
      pieces = before.map .bare ++ inner ++ after.map .bare ∧
      (∀ c ∈ before, isBlank c = true) ∧ ∀ c ∈ after, isBlank c = true := by
  obtain ⟨before, after, same, blankBefore, blankAfter⟩ := exists_eq_append_trim text
  rw [same] at read
  obtain ⟨front, found, rfl⟩ := pieces?_of_append_blank read blankAfter
  rw [pieces?_bare_append fun c member => quoteAt?_blank (blankBefore c member)] at found
  obtain ⟨inner, inside, rfl⟩ := Option.map_eq_some_iff.mp found
  exact ⟨before, after, inner, inside, rfl, blankBefore, blankAfter⟩

end Dialect

theorem isClear_of_without {first : String} (clean : Without quoteMarks first)
    (filled : first ≠ "") (second : String) : isClear (first ++ second).toList = true := by
  rw [String.toList_append]
  cases shape : first.toList with
  | nil => exact absurd (String.toList_inj.mp shape) filled
  | cons c cs =>
    have outside := clean c (shape ▸ List.mem_cons_self)
    simp only [quoteMarks, List.mem_cons, not_or] at outside
    obtain ⟨single, double, back, _, bracket, _⟩ := outside
    simp only [List.cons_append, isClear, Bool.and_eq_true, bne_iff_ne, ne_eq]
    exact ⟨⟨⟨single, double⟩, back⟩, bracket⟩

end SqlDdl
