import PagedQuery.Collection.RunSort
import PagedQuery.Failure
import PagedQuery.SortKey
import PagedQuery.Value.Order

/-!
# Sorting rows

Rows are sorted by the value of a property.  Nothing comes before everything
else, rows with equal values keep their order in both directions, and values
without a common order cannot be sorted.  A number that is not equal to itself
has no place among the others; rows with such a value are sorted by runs, from
the end of the rows when the order is descending.  Several keys are applied
from the least significant to the most significant one.

Main results:

- Theorem `sortBy_perm`: sorting rows neither loses nor repeats one.
- Theorem `sortRows_perm`: neither does sorting by several keys.
- Theorem `sortRows_error`: sorting fails only for values without a common order.
-/

namespace PagedQuery
namespace Collection

/-- The first value comes strictly before the second one, nothing first. -/
def precedes : Value → Value → Bool
  | .null, .null => false
  | .null, _ => true
  | _, .null => false
  | v, w => v.standing w == .less

/-- Two values cannot be sorted: they differ and have no common order. -/
def clashes (v w : Value) : Bool :=
  !v.isNull && !w.isNull && !v.agree w && v.standing w == .foreign

/-- Two of the values cannot be sorted. -/
def anyClash : List Value → Bool
  | [] => false
  | v :: vs => vs.any (clashes v) || anyClash vs

/-- The first row may stand before the second one when sorted by a key. -/
def SortKey.allows (key : SortKey) (a b : Value) : Bool :=
  match key.direction with
  | .asc => !precedes (b.property key.field) (a.property key.field)
  | .desc => !precedes (a.property key.field) (b.property key.field)

/-- A value has a place among others: it is equal to itself. -/
def isPlaced (v : Value) : Bool := v.agree v

/-- Sort rows of which some have a value without a place. -/
def sortUnplaced (key : SortKey) (rows : List Value) : List Value :=
  let before (a b : Value) : Bool := precedes (a.property key.field) (b.property key.field)
  match key.direction with
  | .asc => runSorted before rows
  | .desc => (runSorted before rows.reverse).reverse

/-- Sort rows by one key. -/
def sortBy (key : SortKey) (rows : List Value) : Except Failure (List Value) :=
  let values := rows.map fun row => row.property key.field
  if anyClash values then .error .mismatch
  else if values.all isPlaced then .ok (rows.mergeSort (SortKey.allows key))
  else .ok (sortUnplaced key rows)

/-- Sort rows by several keys, the most significant first. -/
def sortRows : List SortKey → List Value → Except Failure (List Value)
  | [], rows => .ok rows
  | key :: keys, rows =>
      match sortRows keys rows with
      | .ok sorted => sortBy key sorted
      | .error failure => .error failure

theorem sortUnplaced_perm (key : SortKey) (rows : List Value) :
    (sortUnplaced key rows).Perm rows := by
  unfold sortUnplaced
  split
  · exact runSorted_perm _ rows
  · exact (List.reverse_perm _).trans
      ((runSorted_perm _ rows.reverse).trans (List.reverse_perm rows))

theorem sortBy_perm {key : SortKey} {rows sorted : List Value}
    (h : sortBy key rows = .ok sorted) : sorted.Perm rows := by
  simp only [sortBy] at h
  split at h
  · simp at h
  · split at h
    · simp only [Except.ok.injEq] at h
      rw [← h]
      exact List.mergeSort_perm rows _
    · simp only [Except.ok.injEq] at h
      rw [← h]
      exact sortUnplaced_perm key rows

theorem sortRows_perm {keys : List SortKey} {rows sorted : List Value}
    (h : sortRows keys rows = .ok sorted) : sorted.Perm rows := by
  induction keys generalizing sorted with
  | nil =>
      simp only [sortRows, Except.ok.injEq] at h
      rw [h]
  | cons key keys ih =>
      simp only [sortRows] at h
      split at h
      · rename_i between hbetween
        exact (sortBy_perm h).trans (ih hbetween)
      · simp at h

theorem sortRows_error {keys : List SortKey} {rows : List Value} {failure : Failure}
    (h : sortRows keys rows = .error failure) : failure = .mismatch := by
  induction keys with
  | nil => cases h
  | cons key keys ih =>
      rw [sortRows] at h
      split at h
      · simp only [sortBy] at h
        split at h
        · cases h
          rfl
        · split at h <;> cases h
      · rename_i other hrest
        cases h
        exact ih hrest

end Collection
end PagedQuery
