/-!
# Searching a list by position

The place of an item in a list that is in order is found by halving, or first by
growing strides from a hint and then by halving.  Both searches are defined for
any property of positions, also for one that changes more than once.

Main results:

- Theorem `search_le`: a search stays between its bounds.
-/

namespace PagedQuery
namespace Collection

/-- Halve the positions between two bounds in search of the first one without a
property. -/
def search (p : Nat → Bool) (low high : Nat) : Nat :=
  if low < high then
    let middle := low + (high - low) / 2
    if p middle then search p (middle + 1) high else search p low middle
  else high
termination_by high - low

/-- Look at distances 1, 3, 7, … below a limit as long as the positions there have
a property: the last distance that was met, and the next one. -/
def stride (p : Nat → Bool) (limit last next : Nat) : Nat × Nat :=
  if next < limit then
    if p next then stride p limit next (2 * next + 1) else (last, next)
  else (last, min next limit)
termination_by limit - next

/-- The first of `count` positions without a property, searched from a hint on. -/
def gallop (p : Nat → Bool) (count hint : Nat) : Nat :=
  if p hint then
    let (last, next) := stride (fun d => p (hint + d)) (count - hint) 0 1
    search p (hint + last + 1) (hint + next)
  else
    let (last, next) := stride (fun d => !p (hint - d)) (hint + 1) 0 1
    search p (hint + 1 - next) (hint - last)

/-- The item at a position meets a condition. -/
def meetsAt (p : α → Bool) (items : List α) (position : Nat) : Bool :=
  match items[position]? with
  | some item => p item
  | none => false

theorem search_le (p : Nat → Bool) {low high : Nat} (h : low ≤ high) :
    low ≤ search p low high ∧ search p low high ≤ high := by
  fun_induction search p low high with
  | case1 low high hlt middle hp ih =>
      have := ih (by omega)
      omega
  | case2 low high hlt middle hp ih =>
      have := ih (by omega)
      omega
  | case3 low high hlt => omega

end Collection
end PagedQuery
