import PagedQuery.Numeric.Double
import PagedQuery.Numeric.Numeral

/-!
# Doubles in decimal

A double is written with the fewest decimal digits that read back as the same
double, and among those the nearest.  Reading rounds the exact decimal value
once.
-/

namespace PagedQuery
namespace Numeric

/-- A positive decimal number: its digits as one number, times a power of
ten. -/
structure Scientific where
  digits : Nat
  exponent : Int
  deriving DecidableEq, Repr

/-! ## Reading -/

/-- The double nearest to `± digits * 10 ^ exponent`.  Exponents far beyond the
range of doubles are settled without computing the power. -/
def doubleOfDecimal (negative : Bool) (digits : Nat) (exponent : Int) : Double :=
  if digits == 0 then .finite negative 0
  else
    let point := ((decimalDigits digits).length : Int) + exponent
    if 400 < point then .infinity negative
    else if point < -400 then .finite negative 0
    else if 0 ≤ exponent then .ofRatio negative (digits * 10 ^ exponent.toNat) 1
    else .ofRatio negative digits (10 ^ (-exponent).toNat)

/-! ## The shortest decimal that reads back -/

/-- The binary digits of a positive number of units: the significand and the
number of units in its last place. -/
def lastPlace (units : Nat) : Nat :=
  if units < 2 ^ 53 then 1 else 2 ^ (units.log2 - 52)

/-- The numbers that round to a given number of units, in quarters of a unit:
the lower end, the upper end, and whether the ends belong to them. -/
structure RoundingInterval where
  low : Nat
  high : Nat
  closed : Bool

/-- The numbers that round to a positive number of units. -/
def roundingInterval (units : Nat) : RoundingInterval :=
  let place := lastPlace units
  let significand := units / place
  let below := if significand == 2 ^ 52 && 1 < place then place else 2 * place
  { low := 4 * units - below
    high := 4 * units + 2 * place
    closed := significand % 2 == 0 }

/-- The decimal exponent of a positive number of units: the power of ten of its
first digit. -/
def decimalExponent (units : Nat) : Int :=
  ((decimalDigits (units * 10 ^ 340 / unitsPerOne)).length : Int) - 341

/-- A decimal number as a quotient of natural numbers, in quarters of a unit. -/
def Scientific.quarters (x : Scientific) : Nat × Nat :=
  if 0 ≤ x.exponent then (x.digits * 10 ^ x.exponent.toNat * (4 * unitsPerOne), 1)
  else (x.digits * (4 * unitsPerOne), 10 ^ (-x.exponent).toNat)

/-- The decimal number rounds to the middle of the interval. -/
def RoundingInterval.holds (interval : RoundingInterval) (x : Scientific) : Bool :=
  let (num, den) := x.quarters
  if interval.closed then interval.low * den ≤ num && num ≤ interval.high * den
  else interval.low * den < num && num < interval.high * den

/-- How far a decimal number is from a number of units, as a numerator over the
denominator of `quarters`. -/
def Scientific.distance (x : Scientific) (units : Nat) : Nat :=
  let (num, den) := x.quarters
  let goal := 4 * units * den
  if num ≤ goal then goal - num else num - goal

/-- The last decimal not above a number of units on the grid of a power of
ten. -/
def gridBelow (units : Nat) (exponent : Int) : Nat :=
  if 0 ≤ exponent then units / (unitsPerOne * 10 ^ exponent.toNat)
  else units * 10 ^ (-exponent).toNat / unitsPerOne

/-- The decimal with the given number of digits that reads back, if any: of two
the nearer, of two equally near the even one. -/
def decimalWith? (count : Nat) (units : Nat) : Option Scientific :=
  let exponent := decimalExponent units - count + 1
  let lower : Scientific := ⟨gridBelow units exponent, exponent⟩
  let upper : Scientific := ⟨lower.digits + 1, exponent⟩
  let interval := roundingInterval units
  match interval.holds lower, interval.holds upper with
  | false, false => none
  | true, false => some lower
  | false, true => some upper
  | true, true =>
      let below := lower.distance units
      let above := upper.distance units
      if below < above || (below == above && lower.digits % 2 == 0) then some lower
      else some upper

/-- The shortest decimal that reads back as a positive number of units.
Seventeen digits always suffice. -/
def shortestDecimal (units : Nat) : Scientific :=
  match (List.range 17).findSome? fun k => decimalWith? (k + 1) units with
  | some x => x
  | none => ⟨gridBelow units (decimalExponent units - 16), decimalExponent units - 16⟩

/-! ## Layout -/

/-- Where a written double changes from positional to scientific notation. -/
structure DecimalLayout where
  /-- The decimal point falls before this many places: scientific. -/
  lowest : Int
  /-- The decimal point falls behind this many places: scientific. -/
  highest : Int
  /-- A whole significand keeps a zero behind the point in scientific notation. -/
  keepsZero : Bool

/-- Remove the zeros at the end of a numeral, but not its first digit. -/
def trimZeros : List Char → List Char
  | [] => []
  | c :: cs => c :: (cs.reverse.dropWhile (· == '0')).reverse

/-- The exponent of scientific notation: a sign and at least two digits. -/
def exponentChars (exponent : Int) : List Char :=
  (if exponent < 0 then '-' else '+') :: paddedChars 2 exponent.natAbs

/-- Scientific notation of digits whose point falls at `point`. -/
def scientificChars (layout : DecimalLayout) (digits : List Char) (point : Int) :
    List Char :=
  let mantissa :=
    match digits with
    | [] => []
    | [d] => if layout.keepsZero then [d, '.', '0'] else [d]
    | d :: rest => d :: '.' :: rest
  mantissa ++ 'e' :: exponentChars (point - 1)

/-- Positional notation of digits whose point falls at `point`. -/
def positionalChars (digits : List Char) (point : Int) : List Char :=
  if point ≤ 0 then '0' :: '.' :: (List.replicate (-point).toNat '0' ++ digits)
  else
    let count := point.toNat
    if digits.length ≤ count then
      digits ++ List.replicate (count - digits.length) '0' ++ ['.', '0']
    else digits.take count ++ '.' :: digits.drop count

/-- A positive decimal number in a layout. -/
def Scientific.chars (layout : DecimalLayout) (x : Scientific) : List Char :=
  let all := decimalDigits x.digits
  let point := (all.length : Int) + x.exponent
  let digits := trimZeros all
  if point ≤ layout.lowest || layout.highest < point then
    scientificChars layout digits point
  else positionalChars digits point

/-- A double in a layout, given how a positive number of units is rounded. -/
def layoutDouble (layout : DecimalLayout) (decimal : Nat → Scientific) :
    Double → List Char
  | .nan => ['n', 'a', 'n']
  | .infinity negative => (if negative then ['-'] else []) ++ ['i', 'n', 'f']
  | .finite negative units =>
      (if negative then ['-'] else []) ++
        (if units == 0 then ['0', '.', '0'] else (decimal units).chars layout)

/-- Positional from `0.0001` up to below `10 ^ 16`. -/
def plainLayout : DecimalLayout := ⟨-4, 16, false⟩

/-- A double with the fewest digits that read back. -/
def doubleText (x : Double) : String :=
  .ofList (layoutDouble plainLayout shortestDecimal x)

end Numeric
end PagedQuery
