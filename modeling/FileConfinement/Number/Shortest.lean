import FileConfinement.Number.Binary64

/-!
# Shortest decimals

The decimal with the fewest significant digits that rounds to a given binary
value, and of those the one nearest to it.  The search goes through the decimal
grids from one digit to seventeen and compares in exact whole-number arithmetic.
-/

namespace FileConfinement
namespace Number

/-- The decimal `digits * 10 ^ exponent`. -/
structure Decimal where
  digits : Nat
  exponent : Int
deriving DecidableEq, Repr

def digitCount (number : Nat) : Nat :=
  (Nat.toDigits 10 number).length

/-- Take the trailing zeros of a positive number into the exponent. -/
def Decimal.normalize (decimal : Decimal) : Decimal :=
  if decimal.digits ≠ 0 ∧ decimal.digits % 10 = 0 then
    normalize ⟨decimal.digits / 10, decimal.exponent + 1⟩
  else
    decimal
termination_by decimal.digits
decreasing_by
  simp only [ne_eq] at *
  omega

namespace Binary64

/-- Whether `candidate * 10 ^ grid` rounds to the value: it lies between the
midpoints to the neighbouring values, which count when the significand is
even. -/
def isRoundedFrom (value : Binary64) (candidate : Nat) (grid : Int) : Bool :=
  -- all three quantities in units of `2 ^ (exponent - 2) / 10 ^ (-grid)`
  let unit := value.exponent - 2
  let scale (number : Nat) : Nat :=
    number * Nat.pow 2 unit.toNat * Nat.pow 10 (-grid).toNat
  let point := candidate * Nat.pow 10 grid.toNat * Nat.pow 2 (-unit).toNat
  let isPower := value.significand = Nat.pow 2 52 && leastExponent < value.exponent
  let low := scale (4 * value.significand - (if isPower then 1 else 2))
  let high := scale (4 * value.significand + 2)
  if value.significand % 2 = 0 then
    low ≤ point && point ≤ high
  else
    low < point && point < high

/-- The exponent of the leading decimal digit of a positive value. -/
def leadingExponent (value : Binary64) : Int :=
  let (numerator, denominator) := value.ratio
  let estimate : Int := (digitCount numerator : Int) - digitCount denominator
  if numerator * Nat.pow 10 (-estimate).toNat < denominator * Nat.pow 10 estimate.toNat then
    estimate - 1
  else
    estimate

/-- The better of the two decimals next to the value on a grid, if one of them
rounds to it. -/
def onGrid? (value : Binary64) (grid : Int) : Option Decimal :=
  let (numerator, denominator) := value.ratio
  let numerator := numerator * Nat.pow 10 (-grid).toNat
  let denominator := denominator * Nat.pow 10 grid.toNat
  let below := numerator / denominator
  let nearest := roundQuotient numerator denominator
  let other := if nearest = below then below + 1 else below
  if value.isRoundedFrom nearest grid then
    some ⟨nearest, grid⟩
  else if value.isRoundedFrom other grid then
    some ⟨other, grid⟩
  else
    none

/-- The decimal with the fewest digits that rounds to a positive value. -/
def shortest (value : Binary64) : Decimal :=
  let leading := value.leadingExponent
  let grids := (List.range 17).map fun (count : Nat) => leading - count
  ((grids.findSome? value.onGrid?).getD ⟨0, 0⟩).normalize

end Binary64

/-- How a decimal is written: with a point in place, and at least one digit
after it, from 0.00001 up to below 10 ^ 16, and otherwise with one digit before
the point and a signed power of ten. -/
def Decimal.text (decimal : Decimal) : List Char :=
  let digits := Nat.toDigits 10 decimal.digits
  let point : Int := digits.length + decimal.exponent
  if -4 ≤ point ∧ point ≤ 16 then
    if point ≤ 0 then
      ['0', '.'] ++ List.replicate (-point).toNat '0' ++ digits
    else
      let whole := digits.take point.toNat
      let fraction := digits.drop point.toNat
      whole ++ List.replicate (point.toNat - digits.length) '0' ++ '.' ::
        (if fraction.isEmpty then ['0'] else fraction)
  else
    let power := point - 1
    let mantissa := match digits with
      | first :: second :: rest => first :: '.' :: second :: rest
      | single => single
    mantissa ++ 'e' :: (if power < 0 then '-' else '+') :: Nat.toDigits 10 power.natAbs

/-- The text of a floating-point number, given its sign and magnitude. -/
def Binary64.text (negative : Bool) (magnitude : Binary64) : List Char :=
  let unsigned :=
    if magnitude.significand = 0 then ['0', '.', '0'] else magnitude.shortest.text
  if negative then '-' :: unsigned else unsigned

end Number
end FileConfinement
