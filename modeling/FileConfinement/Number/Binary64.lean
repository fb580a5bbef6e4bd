/-!
# Binary floating-point magnitudes

The finite nonnegative values of the 64-bit binary format, as a significand of
at most 53 bits times a power of two, with products and quotients rounded to the
nearest value and ties to the even significand.  All arithmetic is exact on
natural numbers until the one rounding.
-/

namespace FileConfinement
namespace Number

/-- The whole number nearest to a quotient; halfway cases go to the even one. -/
def roundQuotient (numerator denominator : Nat) : Nat :=
  let quotient := numerator / denominator
  let twice := 2 * (numerator % denominator)
  if denominator < twice || (twice = denominator && quotient % 2 = 1) then
    quotient + 1
  else
    quotient

/-- The value `significand * 2 ^ exponent`. -/
structure Binary64 where
  significand : Nat
  exponent : Int
deriving DecidableEq, Repr

namespace Binary64

/-- Exponent of the least positive value. -/
def leastExponent : Int := -1074

/-- Exponent of the greatest value. -/
def greatestExponent : Int := 971

def zero : Binary64 := ⟨0, leastExponent⟩

/-- A quotient of whole numbers that has the same value. -/
def ratio (value : Binary64) : Nat × Nat :=
  (value.significand * Nat.pow 2 value.exponent.toNat, Nat.pow 2 (-value.exponent).toNat)

/-- The exponent at which a positive quotient has a 53-bit whole part, or the
least exponent when that is greater. -/
def exponentOf (numerator denominator : Nat) : Int :=
  let estimate : Int := (numerator.log2 : Int) - (denominator.log2 : Int) - 52
  let scaled :=
    numerator * Nat.pow 2 (-estimate).toNat / (denominator * Nat.pow 2 estimate.toNat)
  max leastExponent (if scaled < Nat.pow 2 52 then estimate - 1 else estimate)

/-- The value nearest to a quotient, unless that lies beyond the greatest
value. -/
def ofRatio? (numerator denominator : Nat) : Option Binary64 :=
  if numerator = 0 then
    some zero
  else
    let exponent := exponentOf numerator denominator
    let significand :=
      roundQuotient (numerator * Nat.pow 2 (-exponent).toNat)
        (denominator * Nat.pow 2 exponent.toNat)
    let value : Binary64 :=
      if significand = Nat.pow 2 53 then ⟨Nat.pow 2 52, exponent + 1⟩ else ⟨significand, exponent⟩
    if value.exponent ≤ greatestExponent then some value else none

/-- The rounded product, unless it overflows. -/
def mul? (first second : Binary64) : Option Binary64 :=
  ofRatio? (first.ratio.1 * second.ratio.1) (first.ratio.2 * second.ratio.2)

/-- The rounded quotient by a positive value, unless it overflows. -/
def div? (first second : Binary64) : Option Binary64 :=
  ofRatio? (first.ratio.1 * second.ratio.2) (first.ratio.2 * second.ratio.1)

/-- The value nearest to a power of ten, unless it overflows. -/
def powerOfTen? (exponent : Nat) : Option Binary64 :=
  ofRatio? (Nat.pow 10 exponent) 1

/-- The greatest exponent whose power of ten is a finite value. -/
def greatestPowerOfTen : Nat := 308

/-- Divide by a power of ten, unless that overflows; then the result is zero. -/
def divPowerOfTen (value : Binary64) (exponent : Nat) : Binary64 :=
  ((powerOfTen? exponent).bind value.div?).getD zero

/-- Divide by the greatest finite power of ten a number of times, as long as
something is left. -/
def divGreatest : (times : Nat) → Binary64 → Binary64
  | 0, value => value
  | times + 1, value =>
      if value.significand = 0 then value
      else divGreatest times (value.divPowerOfTen greatestPowerOfTen)

/-- Divide by any positive power of ten, in steps of the greatest finite one and
a last step for the rest. -/
def scaleDown (value : Binary64) (exponent : Nat) : Binary64 :=
  let times := (exponent - 1) / greatestPowerOfTen
  (divGreatest times value).divPowerOfTen (exponent - times * greatestPowerOfTen)

/-- The value of a whole number times a power of ten: the number is rounded
first and the scaling rounds once more for each power of ten used. -/
def ofDecimal? (significand : Nat) (exponent : Int) : Option Binary64 :=
  (ofRatio? significand 1).bind fun value =>
    if value.significand = 0 then
      some value
    else if 0 ≤ exponent then
      if exponent.toNat ≤ greatestPowerOfTen then
        (powerOfTen? exponent.toNat).bind value.mul?
      else
        none
    else
      some (value.scaleDown (-exponent).toNat)

end Binary64
end Number
end FileConfinement
