/-!
# Binary floating-point numbers of 64 bits

A finite number is a sign and a significand times a power of two, held exactly. The
operations compute the exact result as a quotient of naturals and round it once, to the
nearest number and to the even one of two that are equally near. A magnitude beyond the
largest finite number has no result.
-/

namespace DatasetPicker.Number

/-- A finite number: `significand * 2 ^ exponent`, with a sign. A significand below
`2 ^ 52` occurs only with the least exponent. -/
structure Binary64 where
  negative : Bool
  significand : Nat
  exponent : Int
  deriving DecidableEq, Repr

namespace Binary64

/-- The exponent of the smallest numbers. -/
def leastExponent : Int := -1074

/-- The exponent of the largest numbers. -/
def greatestExponent : Int := 971

/-- Zero, with a sign. -/
def zero (negative : Bool) : Binary64 := ⟨negative, 0, leastExponent⟩

/-- The number is zero, of either sign. -/
def isZero (number : Binary64) : Bool := number.significand == 0

/-- The opposite number. -/
def negate (number : Binary64) : Binary64 :=
  { number with negative := !number.negative }

/-- The natural nearest to a quotient; of two, the even one. -/
def roundQuotient (numerator denominator : Nat) : Nat :=
  let floor := numerator / denominator
  let double := 2 * (numerator % denominator)
  if double < denominator then floor
  else if denominator < double then floor + 1
  else if floor % 2 = 0 then floor
  else floor + 1

/-- A quotient divided by a power of two, again as a quotient. -/
def shift (numerator denominator : Nat) (exponent : Int) : Nat × Nat :=
  if 0 ≤ exponent then (numerator, denominator * Nat.pow 2 exponent.toNat)
  else (numerator * Nat.pow 2 (-exponent).toNat, denominator)

/-- The exponent at which a positive quotient has a significand of 53 bits, or the least
exponent if that is greater. -/
def exponentOf (numerator denominator : Nat) : Int :=
  let guess := (numerator.log2 : Int) - (denominator.log2 : Int) - 53
  let (scaled, divisor) := shift numerator denominator guess
  let exponent := if scaled / divisor < Nat.pow 2 53 then guess else guess + 1
  max exponent leastExponent

/-- The number nearest to a quotient, if it is not too large. -/
def ofQuotient? (negative : Bool) (numerator denominator : Nat) : Option Binary64 :=
  if numerator = 0 then some (zero negative)
  else
    let exponent := exponentOf numerator denominator
    let (scaled, divisor) := shift numerator denominator exponent
    let rounded := roundQuotient scaled divisor
    let (significand, exponent) :=
      if rounded < Nat.pow 2 53 then (rounded, exponent) else (Nat.pow 2 52, exponent + 1)
    if exponent ≤ greatestExponent then some ⟨negative, significand, exponent⟩ else none

/-- The magnitude as a quotient. -/
def magnitude (number : Binary64) : Nat × Nat :=
  if 0 ≤ number.exponent then (number.significand * Nat.pow 2 number.exponent.toNat, 1)
  else (number.significand, Nat.pow 2 (-number.exponent).toNat)

/-- The product, rounded. -/
def mul? (left right : Binary64) : Option Binary64 :=
  let (leftNumerator, leftDenominator) := left.magnitude
  let (rightNumerator, rightDenominator) := right.magnitude
  ofQuotient? (left.negative != right.negative) (leftNumerator * rightNumerator)
    (leftDenominator * rightDenominator)

/-- The quotient, rounded. A divisor of zero has no quotient. -/
def div? (left right : Binary64) : Option Binary64 :=
  if right.isZero then none
  else
    let (leftNumerator, leftDenominator) := left.magnitude
    let (rightNumerator, rightDenominator) := right.magnitude
    ofQuotient? (left.negative != right.negative) (leftNumerator * rightDenominator)
      (leftDenominator * rightNumerator)

/-- The number nearest to a power of ten. -/
def powerOfTen? (exponent : Nat) : Option Binary64 := ofQuotient? false (Nat.pow 10 exponent) 1

/-- The largest power of ten that is a finite number. -/
def greatestPower : Nat := 308

/-- The quotient by the largest power of ten. -/
def divGreatest? (number : Binary64) : Option Binary64 :=
  (powerOfTen? greatestPower).bind number.div?

/-- Divides by the largest power of ten a number of times. -/
def divSteps? (number : Binary64) : Nat → Option Binary64
  | 0 => some number
  | steps + 1 =>
    if number.isZero then some number
    else (divGreatest? number).bind (divSteps? · steps)

/-- Divides by a power of ten, in steps of the largest one as long as more is left. -/
def divPowerOfTen? (number : Binary64) (exponent : Nat) : Option Binary64 :=
  let steps := (exponent - 1) / greatestPower
  (number.divSteps? steps).bind fun quotient =>
    (powerOfTen? (exponent - steps * greatestPower)).bind quotient.div?

/-- Multiplies by a power of ten. -/
def mulPowerOfTen? (number : Binary64) (exponent : Nat) : Option Binary64 :=
  if exponent ≤ greatestPower then (powerOfTen? exponent).bind number.mul?
  else if number.isZero then some number
  else none

/-- The number that digits and a power of ten stand for. The digits are rounded first and
the scaling is rounded again, so the result can be a neighbour of the nearest number. -/
def ofDecimal? (negative : Bool) (digits : Nat) (exponent : Int) : Option Binary64 :=
  (ofQuotient? false digits 1).bind fun whole =>
    (if 0 ≤ exponent then whole.mulPowerOfTen? exponent.toNat
      else whole.divPowerOfTen? (-exponent).toNat).map fun number =>
        { number with negative }

end Binary64

end DatasetPicker.Number
