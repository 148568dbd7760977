/-!
# Double-precision numbers

A finite double is a whole multiple of `2 ^ -1074` whose binary digits, up to
trailing zeros, number at most 53.  Counting it in that unit makes a double a
sign and a natural number, so every operation here is exact arithmetic on
natural numbers followed by one rounding.

Main results:

- Theorem `roundHalfEven_exact`: a whole quotient is not changed by rounding.
- Theorem `ofRatio_zero`: the quotient zero is the zero double.
-/

namespace PagedQuery
namespace Numeric

-- Powers of whole numbers are the primitive ones, also where those of a monoid are known.
attribute [instance (high)] instPowNat
attribute [default_instance (high + 1)] instPowNat

/-- A double-precision number.  A finite one is counted in units of
`2 ^ -1074` and keeps its sign also at zero. -/
inductive Double where
  | nan
  | infinity (negative : Bool)
  | finite (negative : Bool) (units : Nat)
  deriving DecidableEq, Repr, Inhabited

/-- The number of units in the number one. -/
def unitsPerOne : Nat := 2 ^ 1074

/-- The first number of units that is too large for a finite double. -/
def unitsLimit : Nat := 2 ^ 2098

theorem unitsLimit_pos : 0 < unitsLimit := by
  unfold unitsLimit
  apply Nat.pow_pos
  decide

/-- The whole number nearest to a quotient; a tie goes to the even neighbour. -/
def roundHalfEven (num den : Nat) : Nat :=
  let quotient := num / den
  let remainder := num % den
  if 2 * remainder < den then quotient
  else if den < 2 * remainder then quotient + 1
  else quotient + quotient % 2

/-- The units of a nonnegative quotient rounded to 53 binary digits, before the
largest double is considered. -/
def roundedUnits (num den : Nat) : Nat :=
  let scaled := num * unitsPerOne
  let whole := scaled / den
  if whole < 2 ^ 53 then roundHalfEven scaled den
  else
    let step := 2 ^ (whole.log2 - 52)
    roundHalfEven scaled (den * step) * step

namespace Double

/-- The double nearest to a quotient, an infinity when there is none. -/
def ofRatio (negative : Bool) (num den : Nat) : Double :=
  let units := roundedUnits num den
  if units < unitsLimit then finite negative units else infinity negative

/-- The double is neither a NaN nor an infinity. -/
def isFinite : Double → Bool
  | finite _ _ => true
  | _ => false

/-- The signed number of units of a finite double. -/
def signedUnits? : Double → Option Int
  | finite negative units => some (if negative then -(units : Int) else units)
  | _ => none

/-- The whole number that is left when the fraction of a finite double is cut
off. -/
def truncate? : Double → Option Int
  | finite negative units =>
      let whole : Int := ((units / unitsPerOne : Nat) : Int)
      some (if negative then -whole else whole)
  | _ => none

/-- Twice a double; the largest ones become infinite. -/
def twice : Double → Double
  | finite negative units =>
      if 2 * units < unitsLimit then finite negative (2 * units) else infinity negative
  | other => other

/-- The double denoted by 64 bits: sign, eleven bits of exponent, fraction. -/
def ofBits (bits : Nat) : Double :=
  let negative := bits / 2 ^ 63 % 2 == 1
  let exponent := bits / 2 ^ 52 % 2 ^ 11
  let fraction := bits % 2 ^ 52
  if exponent == 2047 then
    if fraction == 0 then infinity negative else nan
  else if exponent == 0 then finite negative fraction
  else finite negative ((2 ^ 52 + fraction) * 2 ^ (exponent - 1))

/-- The 64 bits of a double; every NaN has the same ones. -/
def toBits : Double → Nat
  | nan => 2047 * 2 ^ 52 + 2 ^ 51
  | infinity negative => (if negative then 2 ^ 63 else 0) + 2047 * 2 ^ 52
  | finite negative units =>
      let sign := if negative then 2 ^ 63 else 0
      if units < 2 ^ 52 then sign + units
      else
        let shift := units.log2 - 52
        sign + (shift + 1) * 2 ^ 52 + (units / 2 ^ shift - 2 ^ 52)

theorem ofRatio_zero (negative : Bool) (den : Nat) :
    ofRatio negative 0 den = finite negative 0 := by
  have h : roundedUnits 0 den = 0 := by
    unfold roundedUnits roundHalfEven
    simp
  unfold ofRatio
  rw [h]
  exact if_pos unitsLimit_pos

end Double

/-! ## Rounding -/

theorem roundHalfEven_exact {n den : Nat} (h : 0 < den) :
    roundHalfEven (n * den) den = n := by
  unfold roundHalfEven
  simp [Nat.mul_div_cancel n h, h]

/-! ## Whole numbers and doubles in one order -/

/-- A number: whole, or a double. -/
inductive Number where
  | whole (n : Int)
  | double (x : Double)
  deriving DecidableEq, Repr

/-- Where a number stands on the line that the infinities close; a NaN has no
place. -/
inductive Place where
  | bottom
  | units (n : Int)
  | top
  deriving DecidableEq, Repr

namespace Place

/-- The order of the extended line. -/
def compare : Place → Place → Ordering
  | bottom, bottom => .eq
  | bottom, _ => .lt
  | top, top => .eq
  | top, _ => .gt
  | units _, bottom => .gt
  | units m, units n => Ord.compare m n
  | units _, top => .lt

end Place

namespace Number

/-- The place of a number on the extended line, exactly. -/
def place? : Number → Option Place
  | whole n => some (.units (n * unitsPerOne))
  | double .nan => none
  | double (.infinity true) => some .bottom
  | double (.infinity false) => some .top
  | double (.finite negative units) =>
      some (.units (if negative then -(units : Int) else units))

/-- How two numbers compare by their exact values, unless one is a NaN. -/
def compare? : Number → Number → Option Ordering
  | whole m, whole n => some (Ord.compare m n)
  | x, y =>
      match x.place?, y.place? with
      | some p, some q => some (p.compare q)
      | _, _ => none

@[simp]
theorem compare?_whole (m n : Int) :
    compare? (whole m) (whole n) = some (Ord.compare m n) := rfl

end Number

end Numeric
end PagedQuery
