import PagedQuery.Numeric.Decimal

/-!
# Extended precision

A number of extended precision has 64 binary digits, eleven more than a double.
Its operations are exact ones followed by one rounding, so a chain of them loses
little before the result is rounded to a double.

Main results:

- Theorem `whole_add_fraction`: the whole part and the fraction of a number are
  all of it.
-/

namespace PagedQuery
namespace Numeric

/-- A nonnegative number of extended precision: a whole number times a power of
two. -/
structure Extended where
  significand : Nat
  exponent : Int
  deriving DecidableEq, Repr

namespace Extended

/-- The number nearest to `num / den * 2 ^ exponent`; a tie goes to the even
neighbour. -/
def ofQuotient (num den : Nat) (exponent : Int) : Extended :=
  let shift := den.log2 + 65
  let scaled := num * 2 ^ shift
  let surplus := (scaled / den).log2 - 63
  ⟨roundHalfEven scaled (den * 2 ^ surplus), exponent - shift + surplus⟩

/-- The number nearest to a whole number. -/
def ofNat (n : Nat) : Extended := ofQuotient n 1 0

/-- The amount of a finite double, which is kept exactly. -/
def ofDouble : Double → Extended
  | .finite _ units => ofQuotient units 1 (-1074)
  | _ => ofNat 0

/-- The double nearest to a decimal number. -/
def ofDecimal (digits : Nat) (exponent : Int) : Extended :=
  ofDouble (doubleOfDecimal false digits exponent)

/-- The double nearest to a number. -/
def toDouble (negative : Bool) (x : Extended) : Double :=
  if 0 ≤ x.exponent then .ofRatio negative (x.significand * 2 ^ x.exponent.toNat) 1
  else .ofRatio negative x.significand (2 ^ (-x.exponent).toNat)

/-! ## Arithmetic -/

/-- How often the power of two with a smaller exponent goes into a number. -/
def countIn (x : Extended) (exponent : Int) : Nat :=
  x.significand * 2 ^ (x.exponent - exponent).toNat

instance : Add Extended where
  add x y :=
    let exponent := min x.exponent y.exponent
    ofQuotient (x.countIn exponent + y.countIn exponent) 1 exponent

instance : Mul Extended where
  mul x y := ofQuotient (x.significand * y.significand) 1 (x.exponent + y.exponent)

instance : Div Extended where
  div x y := ofQuotient x.significand y.significand (x.exponent - y.exponent)

/-- The first number is less than the second. -/
def isLess (x y : Extended) : Bool :=
  let exponent := min x.exponent y.exponent
  x.countIn exponent < y.countIn exponent

/-- The whole part of a number. -/
def whole (x : Extended) : Nat :=
  if 0 ≤ x.exponent then x.significand * 2 ^ x.exponent.toNat
  else x.significand / 2 ^ (-x.exponent).toNat

/-- What a number has beyond its whole part. -/
def fraction (x : Extended) : Extended :=
  if 0 ≤ x.exponent then ofNat 0
  else ⟨x.significand % 2 ^ (-x.exponent).toNat, x.exponent⟩

/-- A product with a power, which is found by squaring. -/
def timesPower (result base : Extended) (n : Nat) : Extended :=
  let result := if n % 2 == 1 then result * base else result
  if n / 2 = 0 then result else timesPower result (base * base) (n / 2)
termination_by n

/-- A power of a number. -/
def power (base : Extended) (n : Nat) : Extended := timesPower (ofNat 1) base n

theorem whole_add_fraction {x : Extended} (h : x.exponent < 0) :
    x.whole * 2 ^ (-x.exponent).toNat + x.fraction.significand = x.significand := by
  have hx : ¬0 ≤ x.exponent := by omega
  rw [whole, fraction, if_neg hx, if_neg hx]
  exact Nat.div_add_mod' _ _

end Extended

end Numeric
end PagedQuery
