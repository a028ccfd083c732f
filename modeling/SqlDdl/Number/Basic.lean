import SqlDdl.Number.Shortest

/-! The numbers of a JSON value: exact integers and binary64 numbers. -/

namespace SqlDdl

/-- A finite binary64 number. The sign of a zero is kept. -/
structure Binary64 where
  negative : Bool
  magnitude : Dyadic
deriving DecidableEq

/-- Whether two numbers have the same value; the two zeros have. -/
def Binary64.same (a b : Binary64) : Bool :=
  a == b || (a.magnitude.significand == 0 && b.magnitude.significand == 0)

/-- The shortest decimal text of a number. -/
def Binary64.text (a : Binary64) : String :=
  (if a.negative then "-" else "") ++
    if a.magnitude.significand = 0 then "0.0" else a.magnitude.shortest.text

/-- A number. The reader keeps an integer exactly when it fits in 64 bits, with or without a sign, and
takes every other literal as a binary64 number. -/
inductive Number where
  | integer (value : Int)
  | double (value : Binary64)

namespace Number

/-- The text of a number. -/
def text : Number → String
  | integer value =>
    (if value < 0 then "-" else "") ++ String.ofList (Nat.toDigits 10 value.natAbs)
  | double value => value.text

/-- Whether two numbers are equal. An integer never equals a binary64 number. -/
def same : Number → Number → Bool
  | integer a, integer b => a == b
  | double a, double b => a.same b
  | _, _ => false

instance : BEq Number := ⟨same⟩

/-- Takes digits into a number as long as it stays below `2 ^ 64`. Returns the number and the digits
that are left. -/
def takeDigits (value : Nat) : List Nat → Nat × List Nat
  | [] => (value, [])
  | digit :: digits =>
    if value * 10 + digit < Nat.pow 2 64 then takeDigits (value * 10 + digit) digits
    else (value, digit :: digits)

/-- The value of a list of digits. -/
def ofDigits (digits : List Nat) : Nat :=
  digits.foldl (fun value digit => value * 10 + digit) 0

/-- The parts of a number literal. -/
structure Literal where
  negative : Bool
  whole : List Nat
  fraction : Option (List Nat)
  exponent : Option Int

/-- The number that a literal stands for, if it is finite. Only the leading digits that fit in 64 bits
count; for each digit of the whole part that is left out the power of ten is one higher. -/
def ofLiteral? (literal : Literal) : Option Number :=
  let (leading, left) := takeDigits 0 literal.whole
  if literal.fraction.isNone && literal.exponent.isNone && left.isEmpty then
    if !literal.negative then some (integer leading)
    else if 0 < leading && leading ≤ Nat.pow 2 63 then some (integer (-leading))
    else (Dyadic.round? leading 1 0).map fun magnitude => double ⟨true, magnitude⟩
  else
    let fraction := literal.fraction.getD []
    let (digits, unused) := takeDigits leading fraction
    let power := (left.length : Int) - (fraction.length - unused.length : Nat) +
      literal.exponent.getD 0
    (Dyadic.ofDecimal? digits power).map fun magnitude => double ⟨literal.negative, magnitude⟩

end Number

end SqlDdl
