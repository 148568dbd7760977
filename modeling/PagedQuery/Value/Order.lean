import PagedQuery.Value.Basic

/-!
# Comparing values

Numbers compare by their exact values, whatever their kind; texts compare by
code point, dates in time, sequences item by item.  Values of different kinds
are never equal and have no order, and neither have nothing, mappings and
objects, nor a date that knows its offset and one that does not.

Main results:

- Theorem `agree_int`: whole numbers agree exactly when they are equal.
- Theorem `standing_int`: whole numbers stand as their integers do.
- Theorem `standing_text`: texts stand as their characters do.
-/

namespace PagedQuery

open Numeric

/-- How a value stands to another one. -/
inductive Standing where
  | less
  | same
  | more
  /-- Both are numbers, but one of them is a NaN. -/
  | apart
  /-- The two kinds of value have no common order. -/
  | foreign
  deriving DecidableEq, Repr

/-- The four orderings that can be asked for. -/
inductive Ordered where
  | less
  | atMost
  | more
  | atLeast
  deriving DecidableEq, Repr

namespace Standing

/-- The standing given by an order of all values of a kind. -/
def ofOrdering : Ordering → Standing
  | .lt => less
  | .eq => same
  | .gt => more

/-- The answer to a question of order, unless the kinds have no order. -/
def answers? : Standing → Ordered → Option Bool
  | foreign, _ => none
  | less, question => some (question == .less || question == .atMost)
  | same, question => some (question == .atMost || question == .atLeast)
  | more, question => some (question == .more || question == .atLeast)
  | apart, _ => some false

end Standing

namespace Value

mutual
/-- The two values are equal. -/
def agree : Value → Value → Bool
  | null, null => true
  | text s, text t => s == t
  | date d, date e => d.agree e
  | list xs, list ys => agreeItems xs ys
  | tuple xs, tuple ys => agreeItems xs ys
  | mapping xs, mapping ys => xs.length == ys.length && agreeEntries xs ys
  | object xs _, object ys _ => xs.length == ys.length && agreeEntries xs ys
  | v, w =>
      match v.number?, w.number? with
      | some x, some y => x.compare? y == some .eq
      | _, _ => false

/-- Two sequences have equal items throughout. -/
def agreeItems : List Value → List Value → Bool
  | [], [] => true
  | x :: xs, y :: ys => agree x y && agreeItems xs ys
  | _, _ => false

/-- Every entry is found, with an equal value, among the others. -/
def agreeEntries : Entries → Entries → Bool
  | [], _ => true
  | (name, v) :: rest, others =>
      (match others.lookup name with
        | some w => agree v w
        | none => false) && agreeEntries rest others
end

mutual
/-- How the first value stands to the second. -/
def standing : Value → Value → Standing
  | text s, text t => .ofOrdering (compare s t)
  | date d, date e =>
      if d.isComparable e then .ofOrdering (compare d.instant e.instant) else .foreign
  | list xs, list ys => standingItems xs ys
  | tuple xs, tuple ys => standingItems xs ys
  | v, w =>
      match v.number?, w.number? with
      | some x, some y =>
          match x.compare? y with
          | some o => .ofOrdering o
          | none => .apart
      | _, _ => .foreign

/-- The first items that differ decide; else the shorter sequence is less. -/
def standingItems : List Value → List Value → Standing
  | [], [] => .same
  | [], _ :: _ => .less
  | _ :: _, [] => .more
  | x :: xs, y :: ys => if agree x y then standingItems xs ys else standing x y
end

@[simp]
theorem agree_int (m n : Int) : agree (int m) (int n) = (m == n) := by
  have h : agree (int m) (int n) = (some (Ord.compare m n) == some .eq) := rfl
  rw [h, Bool.eq_iff_iff]
  simp

@[simp]
theorem standing_int (m n : Int) :
    standing (int m) (int n) = .ofOrdering (Ord.compare m n) := rfl

@[simp]
theorem standing_text (s t : String) :
    standing (text s) (text t) = .ofOrdering (Ord.compare s t) := by
  simp [standing]

end Value

end PagedQuery
