import DatasetPicker.Number.Binary64

/-!
# Shortest decimal text

A number is written with the fewest decimal digits that read back as the same number;
of several such decimals the nearest is taken. Small exponents are written by position,
the others with an exponent and its sign.
-/

namespace DatasetPicker.Number

namespace Shortest

/-- The decimal order of a positive quotient: one more than the exponent of its first
digit. -/
def order (numerator denominator : Nat) : Int :=
  if denominator ≤ numerator then ((Nat.toDigits 10 (numerator / denominator)).length : Int)
  else
    let length := (Nat.toDigits 10 (denominator / numerator)).length
    if numerator * Nat.pow 10 (length - 1) = denominator then 2 - (length : Int)
    else 1 - (length : Int)

/-- A quotient divided by a power of ten, again as a quotient. -/
def scale (numerator denominator : Nat) (exponent : Int) : Nat × Nat :=
  if 0 ≤ exponent then (numerator, denominator * Nat.pow 10 exponent.toNat)
  else (numerator * Nat.pow 10 (-exponent).toNat, denominator)

/-- The decimals that read back as a number: those between the middles towards its two
neighbours, the ends included when the significand is even. All three are quotients over
one denominator. -/
structure Interval where
  low : Nat
  value : Nat
  high : Nat
  denominator : Nat
  closed : Bool

/-- The interval of a positive number. Below a power of two the lower neighbour is nearer. -/
def interval (number : Binary64) : Interval :=
  let half := if number.significand = Nat.pow 2 52 ∧ Binary64.leastExponent < number.exponent
    then 1 else 2
  let (unit, denominator) :=
    if 0 ≤ number.exponent then (Nat.pow 2 number.exponent.toNat, 4)
    else (1, 4 * Nat.pow 2 (-number.exponent).toNat)
  { low := (4 * number.significand - half) * unit
    value := 4 * number.significand * unit
    high := (4 * number.significand + 2) * unit
    denominator
    closed := number.significand % 2 = 0 }

/-- Whether `digits * 10 ^ exponent` lies in the interval. -/
def Interval.holds (interval : Interval) (digits : Nat) (exponent : Int) : Bool :=
  let (low, divisor) := scale interval.low interval.denominator exponent
  let (high, _) := scale interval.high interval.denominator exponent
  if interval.closed then low ≤ digits * divisor && digits * divisor ≤ high
  else low < digits * divisor && digits * divisor < high

/-- The decimal of a given number of digits that reads back, the nearer of two. -/
def candidate? (interval : Interval) (order : Int) (count : Nat) : Option (Nat × Int) :=
  let exponent := order - count
  let (value, divisor) := scale interval.value interval.denominator exponent
  let below := value / divisor
  let above := below + 1
  match interval.holds below exponent, interval.holds above exponent with
  | true, true => some (Binary64.roundQuotient value divisor, exponent)
  | true, false => some (below, exponent)
  | false, true => some (above, exponent)
  | false, false => none

/-- The shortest decimal of a positive number: its digits and the exponent of the last. -/
def decimal (number : Binary64) : Nat × Int :=
  let interval := interval number
  let order := order interval.value interval.denominator
  (((List.range 17).map (· + 1)).findSome? (candidate? interval order)).getD
    (0, order)

/-- Decimal digits without zeros at the end, and how many of those there were. -/
def dropZeros (digits : List Char) : List Char × Nat :=
  let kept := (digits.reverse.dropWhile (· = '0')).reverse
  (kept, digits.length - kept.length)

/-- The exponents of the first digit that are written by position. -/
def isPositional (exponent : Int) : Bool := -5 ≤ exponent && exponent ≤ 15

/-- Writes digits whose first has the given exponent. -/
def layOut (digits : List Char) (exponent : Int) : List Char :=
  if isPositional exponent then
    if 0 ≤ exponent then
      let before := exponent.toNat + 1
      let whole := digits.take before
      let fraction := digits.drop before
      whole ++ List.replicate (before - whole.length) '0' ++
        '.' :: (if fraction.isEmpty then ['0'] else fraction)
    else
      '0' :: '.' :: List.replicate ((-exponent).toNat - 1) '0' ++ digits
  else
    digits.take 1 ++ (if digits.length ≤ 1 then [] else '.' :: digits.drop 1) ++
      'e' :: (if 0 ≤ exponent then '+' else '-') :: Nat.toDigits 10 exponent.natAbs

end Shortest

/-- The shortest text of a number. -/
def Binary64.write (number : Binary64) : List Char :=
  let sign := if number.negative then ['-'] else []
  if number.isZero then sign ++ ['0', '.', '0']
  else
    let (digits, last) := Shortest.decimal number
    let (kept, zeros) := Shortest.dropZeros (Nat.toDigits 10 digits)
    sign ++ Shortest.layOut kept (last + zeros + (kept.length : Int) - 1)

end DatasetPicker.Number
