import PagedQuery.Value.Order
import PagedQuery.Value.Whole

/-!
# Offsets and limits

A slice of a result is given by an offset and a limit.  Both are numbers that
are not negative; they are kept as they were given, and only when rows are cut
out does it matter whether they are whole.

Main results:

- Theorem `ofValue?_int`: a whole number is kept if it is not negative.
- Theorem `cutRows_whole`: whole numbers cut out a slice.
-/

namespace PagedQuery

open Numeric

/-- An offset or a limit. -/
inductive Amount where
  | truth (b : Bool)
  | whole (n : Nat)
  | double (x : Double)
  deriving DecidableEq, Repr

namespace Amount

/-- An amount as the value that it was given as. -/
def toValue : Amount → Value
  | truth b => .bool b
  | whole n => .int n
  | double x => .double x

/-- The amount that a value is, nothing if the value is nothing.  Negative numbers
are refused under the name of the amount. -/
def ofValue? (name : String) (v : Value) : Except Failure (Option Amount) :=
  let refused : Failure := .invalidArgument (name ++ " must be >= 0, got " ++ v.plain) []
  match v with
  | .null => .ok none
  | .bool b => .ok (some (truth b))
  | .int n => if n < 0 then .error refused else .ok (some (whole n.toNat))
  | .double x =>
      if (Value.double x).standing (.int 0) == .less then .error refused
      else .ok (some (double x))
  | _ => .error .mismatch

/-- The amount is zero. -/
def isZero : Amount → Bool
  | truth b => !b
  | whole n => n == 0
  | double (.finite _ units) => units == 0
  | double _ => false

/-- The number of rows that an amount counts; only whole numbers count rows. -/
def count : Amount → Except Failure Nat
  | truth b => .ok (if b then 1 else 0)
  | whole n => .ok n
  | double _ => .error .mismatch

/-- The number of rows that is left when the fraction of an amount is cut off. -/
def truncated (a : Amount) : Except Failure Nat := a.toValue.toWhole.map Int.toNat

theorem ofValue?_int (name : String) {n : Int} (h : 0 ≤ n) :
    ofValue? name (.int n) = .ok (some (whole n.toNat)) := by
  simp [ofValue?, Int.not_lt.2 h]

@[simp]
theorem truncated_whole (n : Nat) : (whole n).truncated = .ok n := rfl

end Amount

/-- A given amount converted. -/
def givenAmount (f : Amount → Except Failure Nat) : Option Amount → Except Failure (Option Nat)
  | none => .ok none
  | some a => (f a).map some

/-- The slice of a result that an offset and a limit cut out. -/
def slice {α : Type} (offset limit : Option Nat) (rows : List α) : List α :=
  let rest := rows.drop (offset.getD 0)
  match limit with
  | none => rest
  | some n => rest.take n

/-- The slice of a list of rows; an offset of zero counts as none. -/
def cutRows {α : Type} (offset limit : Option Amount) (rows : List α) :
    Except Failure (List α) :=
  match givenAmount Amount.count (offset.filter fun a => !a.isZero),
    givenAmount Amount.count limit with
  | .ok offset, .ok limit => .ok (slice offset limit rows)
  | .error failure, _ | _, .error failure => .error failure

@[simp]
theorem cutRows_none {α : Type} (rows : List α) : cutRows none none rows = .ok rows := rfl

theorem cutRows_whole {α : Type} (offset limit : Nat) (rows : List α) :
    cutRows (some (.whole offset)) (some (.whole limit)) rows =
      .ok ((rows.drop offset).take limit) := by
  cases offset with
  | zero => rfl
  | succ n => rfl

end PagedQuery
