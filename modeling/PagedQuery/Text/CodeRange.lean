/-!
# Ranges of code points

Properties of characters are given as lists of closed code point ranges, in
increasing order.  This module says what it means for a character to lie in
such a list.

Main results:

- Theorem `inRanges_iff`: membership in a list of ranges is membership in one
  of them.
-/

namespace PagedQuery
namespace Text

/-- A list of closed ranges of code points, written as first and last. -/
abbrev CodeRanges := List (Nat × Nat)

/-- The character lies in one of the ranges. -/
def inRanges (ranges : CodeRanges) (c : Char) : Bool :=
  ranges.any fun r => r.1 ≤ c.toNat && c.toNat ≤ r.2

theorem inRanges_iff (ranges : CodeRanges) (c : Char) :
    inRanges ranges c = true ↔ ∃ r ∈ ranges, r.1 ≤ c.toNat ∧ c.toNat ≤ r.2 := by
  simp [inRanges]

end Text
end PagedQuery
