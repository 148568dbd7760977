/-!
# Decimal digits of all scripts

The decimal digits of a script occupy ten consecutive code points, from its
zero to its nine (Unicode 14).

Main results:

- Theorem `decimalDigit?_lt`: a decimal digit stands for a number below ten.
-/

namespace PagedQuery
namespace Text

/-- Code points of the zeros of all scripts with decimal digits. -/
def digitZeros : List Nat := [
    48, 1632, 1776, 1984, 2406, 2534, 2662, 2790, 2918, 3046, 3174, 3302,
    3430, 3558, 3664, 3792, 3872, 4160, 4240, 6112, 6160, 6470, 6608, 6784,
    6800, 6992, 7088, 7232, 7248, 42528, 43216, 43264, 43472, 43504, 43600,
    44016, 65296, 66720, 68912, 69734, 69872, 69942, 70096, 70384, 70736,
    70864, 71248, 71360, 71472, 71904, 72016, 72784, 73040, 73120, 92768,
    92864, 93008, 120782, 120792, 120802, 120812, 120822, 123200, 123632,
    125264, 130032]

/-- The number that a decimal digit of any script stands for. -/
def decimalDigit? (c : Char) : Option Nat :=
  match digitZeros.find? fun z => z ≤ c.toNat && c.toNat ≤ z + 9 with
  | some z => some (c.toNat - z)
  | none => none

/-- The character is a decimal digit of some script. -/
def isDecimalDigit (c : Char) : Bool := (decimalDigit? c).isSome

theorem decimalDigit?_lt {c : Char} {d : Nat} (h : decimalDigit? c = some d) :
    d < 10 := by
  unfold decimalDigit? at h
  split at h
  · rename_i z hz
    have := List.find?_some hz
    simp only [Bool.and_eq_true, decide_eq_true_eq] at this
    simp only [Option.some.injEq] at h
    omega
  · simp at h

end Text
end PagedQuery
