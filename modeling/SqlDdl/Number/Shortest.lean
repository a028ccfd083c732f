import SqlDdl.Number.Dyadic

/-! The shortest decimal that is read back as a given binary64 number, and how it is laid out. -/

namespace SqlDdl

/-- The number `digits * 10 ^ power`. -/
structure Decimal where
  digits : Nat
  power : Int
deriving DecidableEq

namespace Decimal

/-- Drops up to `count` final zeros. -/
def dropZeros : Nat → Decimal → Decimal
  | 0, d => d
  | count + 1, d =>
    if d.digits % 10 = 0 then dropZeros count ⟨d.digits / 10, d.power + 1⟩ else d

end Decimal

namespace Dyadic

/-- A unit of a quarter of the last place, measured against the decimal grid `10 ^ power`: the pair
`(unit, step)` is in the ratio of the two. -/
def quarterOn (a : Dyadic) (power : Int) : Nat × Nat :=
  let quarter := a.exponent - 2
  (Nat.pow 2 quarter.toNat * Nat.pow 10 (-power).toNat,
    Nat.pow 10 power.toNat * Nat.pow 2 (-quarter).toNat)

/-- The multiple of `10 ^ power` that is nearest to `a` among those that are read back as `a`. Only the
two neighbours of `a` on the grid have to be tried. The ends of the interval around `a` belong to it
when the significand is even; below a power of two the interval is half as long. -/
def onGrid? (a : Dyadic) (power : Int) : Option Decimal :=
  let (unit, step) := a.quarterOn power
  let middle := 4 * a.significand * unit
  let below := if a.significand = Nat.pow 2 52 && -1074 < a.exponent then unit else 2 * unit
  let low := middle - below
  let high := middle + 2 * unit
  let isIn (point : Nat) : Bool :=
    if a.significand % 2 = 0 then low ≤ point && point ≤ high else low < point && point < high
  let floor := middle / step
  let lower := floor * step
  let upper := (floor + 1) * step
  if isIn lower && isIn upper then
    if upper - middle < middle - lower ||
        (upper - middle == middle - lower && floor % 2 == 1) then
      some ⟨floor + 1, power⟩
    else some ⟨floor, power⟩
  else if isIn lower then some ⟨floor, power⟩
  else if isIn upper then some ⟨floor + 1, power⟩
  else none

/-- The power of ten of the leading decimal digit of a positive number. Every such number is at least
`10 ^ -345`, so that its multiple of that unit shows all digits before the leading one. -/
def leadingDigit (a : Dyadic) : Int :=
  let (unit, step) := a.quarterOn (-345)
  ((Nat.toDigits 10 (4 * a.significand * unit / step)).length : Int) - 346

/-- The decimal with the fewest digits that is read back as `a`, and among those the nearest. Seventeen
digits are always enough. -/
def shortest (a : Dyadic) : Decimal :=
  let leading := a.leadingDigit
  let found := (List.range 17).findSome? fun (more : Nat) => a.onGrid? (leading - more)
  (found.getD ⟨0, 0⟩).dropZeros 17

end Dyadic

namespace Decimal

/-- The text of a positive decimal without final zeros. From `10 ^ -5` up to below `10 ^ 16` it is
written out, with `.0` after a whole number; other numbers have one digit before the point and an
exponent with its sign. -/
def text (d : Decimal) : String :=
  let digits := Nat.toDigits 10 d.digits
  let leading := d.power + digits.length - 1
  String.ofList <|
    if -5 ≤ leading && leading ≤ 15 then
      if 0 ≤ d.power then digits ++ List.replicate d.power.toNat '0' ++ ['.', '0']
      else if 0 ≤ leading then
        digits.take (leading.toNat + 1) ++ '.' :: digits.drop (leading.toNat + 1)
      else '0' :: '.' :: List.replicate (-leading - 1).toNat '0' ++ digits
    else
      let fraction := if digits.length ≤ 1 then [] else '.' :: digits.drop 1
      let sign := if leading < 0 then '-' else '+'
      digits.take 1 ++ fraction ++ 'e' :: sign :: Nat.toDigits 10 leading.natAbs

end Decimal

end SqlDdl
