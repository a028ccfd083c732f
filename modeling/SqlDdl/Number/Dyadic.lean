/-! The non-negative numbers of the binary64 format, and their arithmetic with rounding. -/

namespace SqlDdl

/-- The number `significand * 2 ^ exponent`. The results of rounding have a significand below `2 ^ 53`
and an exponent from `-1074` to `971`, and the significand is at least `2 ^ 52` unless the exponent
is `-1074`. -/
structure Dyadic where
  significand : Nat
  exponent : Int
deriving DecidableEq

namespace Dyadic

/-- Zero, with the exponent that rounding gives it. -/
def zero : Dyadic := ⟨0, -1074⟩

/-- The integer nearest to a quotient; of two equally near ones the even one. -/
def nearest (numerator denominator : Nat) : Nat :=
  let quotient := numerator / denominator
  let twice := 2 * (numerator % denominator)
  if denominator < twice || (twice == denominator && quotient % 2 == 1) then quotient + 1
  else quotient

/-- The exponent of the leading bit of a quotient of positive numbers. -/
def leadingBit (numerator denominator : Nat) : Int :=
  let guess : Int := (Nat.log2 numerator : Int) - Nat.log2 denominator
  if denominator * Nat.pow 2 guess.toNat ≤ numerator * Nat.pow 2 (-guess).toNat then guess
  else guess - 1

/-- The binary64 number nearest to `numerator / denominator * 2 ^ shift`, if it is finite. A tie goes
to the even significand. -/
def round? (numerator denominator : Nat) (shift : Int) : Option Dyadic :=
  if numerator = 0 then some zero
  else
    let exponent := max (leadingBit numerator denominator + shift - 52) (-1074)
    let drop := exponent - shift
    let significand :=
      nearest (numerator * Nat.pow 2 (-drop).toNat) (denominator * Nat.pow 2 drop.toNat)
    let rounded : Dyadic :=
      if significand = Nat.pow 2 53 then ⟨Nat.pow 2 52, exponent + 1⟩
      else ⟨significand, exponent⟩
    if rounded.exponent ≤ 971 then some rounded else none

/-- The rounded product, if it is finite. -/
def mul? (a b : Dyadic) : Option Dyadic :=
  round? (a.significand * b.significand) 1 (a.exponent + b.exponent)

/-- The rounded quotient. Dividing by a number of at least one cannot overflow; zero stands for the
cases that do not occur. -/
def div (a b : Dyadic) : Dyadic :=
  (round? a.significand b.significand (a.exponent - b.exponent)).getD zero

/-- The rounded power of ten. The powers above `10 ^ 308` are not finite. -/
def tenPower (n : Nat) : Dyadic :=
  (round? (Nat.pow 10 n) 1 0).getD zero

/-- Divides by a power of ten, by steps of at most `10 ^ 308` with a rounding in each. -/
def divTenPower (a : Dyadic) (n : Nat) : Dyadic :=
  if n ≤ 308 then a.div (tenPower n)
  else if a.significand = 0 then a
  else divTenPower (a.div (tenPower 308)) (n - 308)
termination_by n

/-- Reads `digits * 10 ^ power`, if it is finite: the digits are rounded to a binary64 number, and
that is multiplied or divided by rounded powers of ten. -/
def ofDecimal? (digits : Nat) (power : Int) : Option Dyadic := do
  let start ← round? digits 1 0
  if power < 0 then some (start.divTenPower (-power).toNat)
  else if power ≤ 308 then start.mul? (tenPower power.toNat)
  else if start.significand = 0 then some start
  else none

end Dyadic

end SqlDdl
