/-
This file shows numbers with a fraction. Such a number stands for a binary floating-point number of
64 bits, and it is shown with the fewest decimal digits whose nearest number is that same one.
-/

import Nondelivery.Json.Basic

namespace Nondelivery

/-- A binary floating-point number that is not negative: `significand` times two to the power of
`exponent`. -/
structure Binary64 where
  significand : Nat
  exponent : Int
  deriving DecidableEq, Repr

/-- The quotient rounded to the nearest integer, a half to the even neighbour. -/
def roundQuotient (numerator denominator : Nat) : Nat :=
  let quotient := numerator / denominator
  let twice := 2 * (numerator % denominator)
  if twice < denominator || (twice == denominator && quotient % 2 == 0) then quotient
  else quotient + 1

/-- The fraction `numerator / denominator` times a power of the base, again as a fraction. -/
def scaleFraction (base : Nat) (power : Int) (fraction : Nat × Nat) : Nat × Nat :=
  (fraction.1 * Nat.pow base power.toNat, fraction.2 * Nat.pow base (-power).toNat)

namespace Binary64

/-- The least exponent that the format has. -/
def leastExponent : Int := -1074

/-- The format keeps 53 binary digits, and this is the least number that has so many. -/
def hiddenBit : Nat := 4503599627370496

/-- The number nearest to a positive fraction. -/
def nearest (fraction : Nat × Nat) : Binary64 :=
  let guess : Int := (Nat.log2 fraction.1 : Int) - Nat.log2 fraction.2 - 52
  let scaled := scaleFraction 2 (-guess) fraction
  let exponent := max leastExponent (if scaled.1 / scaled.2 < hiddenBit then guess - 1 else guess)
  let exact := scaleFraction 2 (-exponent) fraction
  let significand := roundQuotient exact.1 exact.2
  if significand = 2 * hiddenBit then ⟨hiddenBit, exponent + 1⟩ else ⟨significand, exponent⟩

/-- The exact value as a fraction. -/
def fraction (number : Binary64) : Nat × Nat :=
  scaleFraction 2 number.exponent (number.significand, 1)

/-- The greatest exponent that the format has. -/
def greatestExponent : Int := 971

/-- The number is no greater than the greatest one of the format. -/
def isFinite (number : Binary64) : Bool := number.exponent ≤ greatestExponent

/-- The number nearest to a power of ten. -/
def powerOfTen (power : Nat) : Binary64 := nearest (Nat.pow 10 power, 1)

/-- The number nearest to a product. -/
def times (left right : Binary64) : Binary64 :=
  let (leftNumerator, leftDenominator) := left.fraction
  let (rightNumerator, rightDenominator) := right.fraction
  nearest (leftNumerator * rightNumerator, leftDenominator * rightDenominator)

/-- The number nearest to a quotient. -/
def dividedBy (dividend divisor : Binary64) : Binary64 :=
  let (leftNumerator, leftDenominator) := dividend.fraction
  let (rightNumerator, rightDenominator) := divisor.fraction
  nearest (leftNumerator * rightDenominator, leftDenominator * rightNumerator)

/-- The greatest power of ten that is a number of the format. -/
def greatestPower : Nat := 308

/-- Beyond this power of ten every product is too great and every quotient is zero, as long as the
other operand has at most twenty digits. -/
def decisivePower : Nat := 400

/-- The number that stands for `digits` times ten to the power of `exponent`: the digits and the
power of ten are rounded each, and then their product or quotient. Where the power would be too
great, the digits are divided twice. -/
def ofDecimal (digits : Nat) (exponent : Int) : Binary64 :=
  let significand := nearest (digits, 1)
  let power := exponent.natAbs
  if 0 ≤ exponent then
    significand.times (powerOfTen (min power decisivePower))
  else if power ≤ greatestPower then
    significand.dividedBy (powerOfTen power)
  else
    let reduced := significand.dividedBy (powerOfTen greatestPower)
    reduced.dividedBy (powerOfTen (min (power - greatestPower) decisivePower))

end Binary64

/-- The number of decimal places by which the point stands right of the first digit. -/
def decimalMagnitude (fraction : Nat × Nat) : Int :=
  if fraction.2 ≤ fraction.1 then
    ((Nat.toDigits 10 (fraction.1 / fraction.2)).length : Int) - 1
  else
    let isFirst := fun places => decide (fraction.2 ≤ fraction.1 * Nat.pow 10 places)
    Int.negOfNat (((List.range 400).find? isFirst).getD 400)

/-- The decimal with this many digits that stands for the number, if there is one; of several the
nearest. -/
def Binary64.decimalWith? (number : Binary64) (count : Nat) : Option (Nat × Int) :=
  let fraction := number.fraction
  let exponent := decimalMagnitude fraction - (count - 1 : Nat)
  let scaled := scaleFraction 10 (-exponent) fraction
  let rounded := roundQuotient scaled.1 scaled.2
  let below := scaled.1 / scaled.2
  ([rounded, below, below + 1].find? fun digits =>
    Binary64.nearest (scaleFraction 10 exponent (digits, 1)) == number).map fun digits =>
      if digits = Nat.pow 10 count then (digits / 10, exponent + 1) else (digits, exponent)

/-- The decimal with the fewest digits that stands for the number. -/
def Binary64.shortest (number : Binary64) : Nat × Int :=
  ((List.range 17).findSome? fun less => number.decimalWith? (less + 1)).getD (0, 0)

/-- The number `digits` times ten to the power of `exponent` in positional notation, with at least
one digit on each side of the point. -/
def positional (digits : Nat) (exponent : Int) : String :=
  let figures := Nat.toDigits 10 digits
  if 0 ≤ exponent then
    String.ofList (figures ++ List.replicate exponent.toNat '0' ++ ['.', '0'])
  else
    let places := (-exponent).toNat
    let padded := List.replicate (places + 1 - figures.length) '0' ++ figures
    let whole := padded.length - places
    String.ofList (padded.take whole ++ ['.'] ++ padded.drop whole)

/-- The same number in scientific notation: one digit before the point, no point if no digit stands
after it, and an exponent that always has a sign. -/
def scientific (digits : Nat) (exponent : Int) : String :=
  let figures := Nat.toDigits 10 digits
  let places := exponent + (figures.length - 1 : Nat)
  let fraction := if figures.length = 1 then [] else '.' :: figures.tail
  let sign := if places < 0 then '-' else '+'
  String.ofList (figures.take 1 ++ fraction ++ ['e', sign] ++ Nat.toDigits 10 places.natAbs)

/-- The least place of the first digit that is still written in positional notation. -/
def leastPlace : Int := -5

/-- The greatest place of the first digit that is still written in positional notation. -/
def greatestPlace : Int := 15

/-- A number in positional notation unless its first digit stands too far from the point. -/
def showDecimal (digits : Nat) (exponent : Int) : String :=
  let place := exponent + ((Nat.toDigits 10 digits).length - 1 : Nat)
  if leastPlace ≤ place ∧ place ≤ greatestPlace then positional digits exponent
  else scientific digits exponent

namespace Decimal

/-- The floating-point number that the decimal stands for, without its sign. -/
def magnitude (decimal : Decimal) : Binary64 :=
  Binary64.ofDecimal decimal.digits decimal.exponent

/-- The number as it is shown in messages. -/
def text (decimal : Decimal) : String :=
  let sign := if decimal.negative then "-" else ""
  if decimal.magnitude.significand = 0 then
    sign ++ "0.0"
  else
    let shortest := decimal.magnitude.shortest
    sign ++ showDecimal shortest.1 shortest.2

end Decimal

end Nondelivery
