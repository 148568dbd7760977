import PagedQuery.Coercion
import PagedQuery.Numeric.Extended

/-!
# Doubles of a database as text

A database writes a double with fifteen digits and reads a decimal with at most
nineteen.  Both conversions scale by powers of ten in extended precision and
round after every step, so neither always gives the nearest result.
-/

namespace PagedQuery
namespace Relational

open Numeric

/-! ## Writing -/

/-- A number times a power of ten. -/
structure Scaled where
  number : Extended
  exponent : Int

/-- Multiply a scale by a power of ten as long as a number is not below the
result, at most a number of times. -/
def raiseScale (x step : Extended) (places : Int) : Nat → Scaled → Scaled
  | 0, scale => scale
  | fuel + 1, scale =>
      if x.isLess (step * scale.number) then scale
      else raiseScale x step places fuel ⟨scale.number * step, scale.exponent + places⟩

/-- Multiply a number by a power of ten as long as it is below a bound, at most a
number of times. -/
def raiseNumber (bound step : Extended) (places : Int) : Nat → Scaled → Scaled
  | 0, x => x
  | fuel + 1, x =>
      if x.number.isLess bound then
        raiseNumber bound step places fuel ⟨x.number * step, x.exponent - places⟩
      else x

/-- The number ten. -/
def ten : Extended := .ofNat 10

/-- A positive number with one digit in front of its point. -/
def normalized (x : Extended) : Scaled :=
  let scale := raiseScale x (.ofDecimal 1 100) 100 4 ⟨.ofNat 1, 0⟩
  let scale := raiseScale x (.ofNat (10 ^ 10)) 10 10 scale
  let scale := raiseScale x ten 1 10 scale
  let large : Scaled := ⟨x / scale.number, scale.exponent⟩
  raiseNumber (.ofNat 1) ten 1 10
    (raiseNumber (.ofDecimal 1 (-8)) (.ofNat (10 ^ 8)) 8 50 large)

/-- Half a unit of the fifteenth digit, made from two factors. -/
def halfLastDigit : Extended :=
  .ofDouble ((Extended.ofDecimal 5 (-5) * .ofDecimal 1 (-10)).toDouble false)

/-- A number with one digit in front of its point, half a unit of its fifteenth
digit added. -/
def roundedUp (x : Scaled) : Scaled :=
  let sum := x.number + halfLastDigit
  if sum.isLess ten then ⟨sum, x.exponent⟩
  else ⟨sum * .ofDecimal 1 (-1), x.exponent + 1⟩

/-- The first digits of a number behind those that are known. -/
def firstDigits : Nat → Nat → Extended → Nat
  | 0, known, _ => known
  | count + 1, known, x => firstDigits count (10 * known + x.whole) (x.fraction * ten)

/-- A positive number of units with fifteen digits. -/
def fifteenDigits (units : Nat) : Scientific :=
  let x := roundedUp (normalized (.ofDouble (.finite false units)))
  ⟨firstDigits 15 0 x.number, x.exponent - 14⟩

/-- Doubles as text have a zero behind the point and change to scientific
notation from `10 ^ 15` on. -/
def realLayout : DecimalLayout := ⟨-4, 15, true⟩

/-- A double as text. -/
def realText : Double → String
  | .infinity negative => if negative then "-Inf" else "Inf"
  | .finite _ 0 => "0.0"
  | x => .ofList (layoutDouble realLayout fifteenDigits x)

/-! ## Reading -/

/-- From here on no further digit is added to a number of 64 bits. -/
def digitRoom : Nat := (2 ^ 63 - 1 - 9) / 10

/-- The number of the first digits that 64 bits have room for, and how many
digits are left out. -/
def boundedDigits (digits : List Char) : Nat × Nat :=
  digits.foldl (fun (n, left) c =>
    if n < digitRoom then (10 * n + digitValue c, left) else (n, left + 1)) (0, 0)

/-- Written exponents with more than five digits count as 10000. -/
def boundedExponent (n : Int) : Int :=
  if n.natAbs < 100000 then n else if n < 0 then -10000 else 10000

/-- Bring a positive power of ten into a number as far as 64 bits have room. -/
def absorbTens : Nat → Nat → Nat × Nat
  | n, 0 => (n, 0)
  | n, exponent + 1 =>
      if (2 ^ 63 - 1) / 10 ≤ n then (n, exponent + 1) else absorbTens (10 * n) exponent

/-- Cancel a power of ten in a denominator against zeros at the end of a
number. -/
def cancelTens : Nat → Nat → Nat × Nat
  | n, 0 => (n, 0)
  | n, exponent + 1 =>
      if n % 10 == 0 then cancelTens (n / 10) exponent else (n, exponent + 1)

/-- The greatest power of ten that is used at once, as a number of units. -/
def farUnits : Nat :=
  match doubleOfDecimal false 1 308 with
  | .finite _ units => units
  | _ => 0

/-- A double multiplied by `10 ^ 308`. -/
def timesFar : Double → Double
  | .finite negative units => .ofRatio negative (units * farUnits) (unitsPerOne * unitsPerOne)
  | x => x

/-- A double divided by `10 ^ 308`. -/
def overFar : Double → Double
  | .finite negative units => .ofRatio negative units farUnits
  | x => x

/-- A positive number times a positive power of ten. -/
def enlarged (negative : Bool) (n exponent : Nat) : Double :=
  if exponent ≤ 307 then (Extended.ofNat n * ten.power exponent).toDouble negative
  else if exponent < 342 then
    timesFar ((Extended.ofNat n * ten.power (exponent - 308)).toDouble negative)
  else .infinity negative

/-- A positive number divided by a positive power of ten. -/
def reduced (negative : Bool) (n exponent : Nat) : Double :=
  if exponent ≤ 307 then (Extended.ofNat n / ten.power exponent).toDouble negative
  else if exponent < 342 then
    overFar ((Extended.ofNat n / ten.power (exponent - 308)).toDouble negative)
  else .finite negative 0

/-- The double of a number times a power of ten. -/
def realOfDecimal (negative : Bool) (n : Nat) (exponent : Int) : Double :=
  if n == 0 then .finite negative 0
  else if 0 ≤ exponent then
    match absorbTens n exponent.toNat with
    | (n, 0) => .ofRatio negative n 1
    | (n, exponent) => enlarged negative n exponent
  else
    match cancelTens n (-exponent).toNat with
    | (n, 0) => .ofRatio negative n 1
    | (n, exponent) => reduced negative n exponent

/-- The double that a written decimal is read as. -/
def readReal (d : Coercion.WrittenDecimal) : Double :=
  let (n, left) := boundedDigits d.digits
  realOfDecimal d.negative n (boundedExponent d.exponent + left - d.places)

end Relational
end PagedQuery
