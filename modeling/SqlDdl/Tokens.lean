import SqlDdl.Keyword

/-! The tokens of a piece of SQL. -/

namespace SqlDdl

/-- Tokens in the order in which they are written. A token may be absent or blank; such tokens are not
written. -/
structure Tokens where
  entries : List (Option String)
deriving DecidableEq

namespace Tokens

def empty : Tokens := ⟨[]⟩

/-- The tokens of the first operand before those of the second. -/
instance : Append Tokens := ⟨fun first second => ⟨first.entries ++ second.entries⟩⟩

/-- Adds a token that may be absent, without the blanks at its ends. -/
def pushOpt (tokens : Tokens) (text : Option String) : Tokens :=
  ⟨tokens.entries ++ [text.map trim]⟩

/-- Adds a token, without the blanks at its ends. -/
def push (tokens : Tokens) (text : String) : Tokens :=
  tokens.pushOpt (some text)

/-- Adds a keyword in its normal form. -/
def pushKeyword (tokens : Tokens) (text : String) : Tokens :=
  tokens.pushOpt (keyword? text)

/-- Adds several tokens, each without the blanks at its ends. -/
def extend (tokens : Tokens) (texts : List String) : Tokens :=
  ⟨tokens.entries ++ texts.map fun text => some (trim text)⟩

/-- The tokens that are written. -/
def toList (tokens : Tokens) : List String :=
  (tokens.entries.filterMap id).filter hasText

/-- The tokens that are written, one after the other: what is absent is passed over, then what is blank. -/
def present (tokens : Tokens) : List String :=
  (tokens.entries.filterMap id).filter hasText

/-- The tokens that are written, with one space between them. -/
def join (tokens : Tokens) : String :=
  " ".intercalate tokens.present

theorem present_eq_toList (tokens : Tokens) : tokens.present = tokens.toList :=
  rfl

theorem join_eq (tokens : Tokens) : tokens.join = " ".intercalate tokens.toList :=
  rfl

def text (text : String) : Tokens :=
  empty.push text

def opt (text : Option String) : Tokens :=
  empty.pushOpt text

def word (text : String) : Tokens :=
  empty.pushKeyword text

def optWord (text : Option String) : Tokens :=
  opt (text.bind keyword?)

def marker (canonical : String) (marker : Option Marker) : Tokens :=
  opt (marker.bind (Marker.keyword? canonical))

def part {α : Type} (value : Option α) (tokens : α → Tokens) : Tokens :=
  match value with
  | none => empty
  | some value => tokens value

def concat (parts : List Tokens) : Tokens :=
  ⟨parts.flatMap entries⟩

end Tokens

end SqlDdl
