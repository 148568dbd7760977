import PagedQuery.Failure

/-!
# Predicates

A predicate is a condition on the properties of one row: comparisons of a
property with a fixed value, and tests that a caller brings along, joined by
conjunction, disjunction and negation.

Main results:

- Theorem `ofName?_name`: an operator is found again under its name.
-/

namespace PagedQuery

/-- How a property is compared with a value. -/
inductive Operator where
  | eq
  | ne
  | gt
  | ge
  | lt
  | le
  | contains
  deriving DecidableEq, Repr

namespace Operator

/-- The written name of an operator. -/
def name : Operator → String
  | eq => "eq"
  | ne => "ne"
  | gt => "gt"
  | ge => "ge"
  | lt => "lt"
  | le => "le"
  | contains => "contains"

/-- All operators. -/
def every : List Operator := [eq, ne, gt, ge, lt, le, contains]

/-- The operator with a written name. -/
def ofName? (name : String) : Option Operator := every.find? (·.name == name)

theorem ofName?_name (op : Operator) : ofName? op.name = some op := by
  cases op <;> rfl

end Operator

/-- A condition on one row. -/
inductive Predicate where
  | compare (name : String) (op : Operator) (value : Value)
  | all (predicates : List Predicate)
  | any (predicates : List Predicate)
  | not (predicate : Predicate)
  /-- A test that no backend knows by its form; it may fail. -/
  | foreign (test : Value → Except Failure Bool)
  deriving Inhabited

namespace Predicate

/-- Both conditions. -/
def and (p q : Predicate) : Predicate := .all [p, q]

/-- At least one of two conditions. -/
def or (p q : Predicate) : Predicate := .any [p, q]

end Predicate

end PagedQuery
