import SqlDdl.Expr.Basic
import SqlDdl.Proofs.NameReader

/-! A reader of expressions that have explicit parentheses. It looks at characters only: what stands after
an opening parenthesis tells a list, a sign and the left operand of an operator from each other. -/

namespace SqlDdl

/-- Reads the rest of a column after its first name. -/
def Dialect.readColumn (dialect : Dialect) (name : String) : Reader Expr
  | '.' :: rest =>
    (dialect.readName rest).map fun found => (.column ⟨some name, found.1⟩, found.2)
  | rest => some (.column ⟨none, name⟩, rest)

/-- Reads digits. -/
def readNumber : Reader Expr := fun cs =>
  some (.number (.integer (Nat.ofDigitChars 10 (cs.takeWhile Char.isDigit) 0)),
    cs.dropWhile Char.isDigit)

/-- Reads the rest of a list after its first item, up to the parenthesis that closes it. -/
def readMore (items : Reader (List Expr)) (first : Expr) : Reader (List Expr)
  | ')' :: rest => some ([first], rest)
  | ',' :: ' ' :: rest => (items rest).map fun found => (first :: found.1, found.2)
  | _ => none

/-- Reads the end of a list without items. -/
def readEnd : Reader (List Expr)
  | ')' :: rest => some ([], rest)
  | _ => none

/-- Reads items up to the parenthesis that closes them. -/
def readItemsLayer (read : Reader Expr) (items : Reader (List Expr)) : Reader (List Expr) := fun cs =>
  match read cs with
  | some (first, rest) => readMore items first rest
  | none => readEnd cs

/-- Reads an expression and the parenthesis after it. -/
def readClosed (read : Reader Expr) : Reader Expr := fun cs =>
  match read cs with
  | some (expr, ')' :: rest) => some (expr, rest)
  | _ => none

/-- Reads the operand of a unary operator. -/
def readUnary (read : Reader Expr) (operator : String) : Reader Expr := fun cs =>
  (readClosed read cs).map fun found => (.unary operator found.1 true, found.2)

/-- Reads what a binary operator is followed by. Two bounds have `AND` between them. -/
def readOperand (read : Reader Expr) (left : Expr) (operator : String) : Reader Expr := fun cs =>
  match read cs with
  | some (right, ')' :: rest) => some (.binary operator left right true, rest)
  | some (low, ' ' :: 'A' :: 'N' :: 'D' :: ' ' :: rest) =>
    (readClosed read rest).map fun found => (.binary operator left (.list [low, found.1]) true, found.2)
  | _ => none

/-- Reads a binary operator, which ends at a space, and what follows it. -/
def readBinary (read : Reader Expr) (left : Expr) : Reader Expr := fun cs =>
  readOperand read left (String.ofList (cs.takeWhile (· != ' '))) ((cs.dropWhile (· != ' ')).drop 1)

/-- Reads what stands after an opening parenthesis and begins with no expression. -/
def readSigned (read : Reader Expr) : Reader Expr
  | ')' :: rest => some (.list [], rest)
  | '-' :: rest => readUnary read "-" rest
  | '+' :: rest => readUnary read "+" rest
  | '~' :: rest => readUnary read "~" rest
  | 'N' :: 'O' :: 'T' :: ' ' :: rest => readUnary read "NOT" rest
  | _ => none

/-- Reads what stands after an opening parenthesis. -/
def readGroup (read : Reader Expr) (items : Reader (List Expr)) : Reader Expr := fun cs =>
  match read cs with
  | some (left, ' ' :: rest) => readBinary read left rest
  | some (first, rest) => (readMore items first rest).map fun found => (.list found.1, found.2)
  | none => readSigned read cs

/-- Reads what follows a word without quotes: a call has a parenthesis there. -/
def Dialect.readCall (dialect : Dialect) (items : Reader (List Expr)) (word : String) : Reader Expr
  | '(' :: rest => (items rest).map fun found => (.call word (some found.1), found.2)
  | rest => dialect.readColumn word rest

/-- Reads an expression that begins with a word without quotes. -/
def Dialect.readWordExpr (dialect : Dialect) (items : Reader (List Expr)) (word : String) :
    Reader Expr := fun rest =>
  if word = "TRUE" then some (.bool true, rest)
  else if word = "FALSE" then some (.bool false, rest)
  else if word = "NULL" then some (.null, rest)
  else if word = "NOT" then none
  else dialect.readCall items word rest

/-- Reads an expression, given readers for what is inside of it. -/
def Dialect.readLayer (dialect : Dialect) (read : Reader Expr) (items : Reader (List Expr)) :
    Reader Expr
  | [] => none
  | c :: cs =>
    if c = '(' then readGroup read items cs
    else if c = '\'' then
      (takeQuoted '\'' cs).map fun found => (.string (String.ofList found.1), found.2)
    else if c.isDigit then readNumber (c :: cs)
    else (dialect.readName (c :: cs)).bind fun found =>
      if c = dialect.openQuote then dialect.readColumn found.1 found.2
      else dialect.readWordExpr items found.1 found.2

mutual

/-- Reads an expression of a bounded depth. -/
def Dialect.readTo (dialect : Dialect) : Nat → Reader Expr
  | 0 => fun _ => none
  | bound + 1 => dialect.readLayer (readTo dialect bound) (readItemsTo dialect bound)

/-- Reads items of a bounded depth and number. -/
def Dialect.readItemsTo (dialect : Dialect) : Nat → Reader (List Expr)
  | 0 => fun _ => none
  | bound + 1 => readItemsLayer (readTo dialect bound) (readItemsTo dialect bound)

end

end SqlDdl
