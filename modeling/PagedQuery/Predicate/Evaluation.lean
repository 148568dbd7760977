import PagedQuery.Predicate.Basic
import PagedQuery.Text.Search
import PagedQuery.Value.Order

/-!
# Evaluating predicates on a row

A property that is missing or nothing meets no comparison, not even one that
asks for a difference.  Conjunctions and disjunctions look at their members from
left to right and stop at the first one that decides, so a comparison that is
not defined on its values matters only when it is reached.

Main results:

- Theorem `holds_compare`: a comparison is made when the property is there.
- Theorem `compare_null`: nothing meets no comparison.
- Theorem `holdsAll_append`: a conjunction goes on where its first part is met.
-/

namespace PagedQuery

/-- An answer about the order of two values, or a mismatch of their kinds. -/
def orderAnswer (question : Ordered) (actual expected : Value) : Except Failure Bool :=
  match (actual.standing expected).answers? question with
  | some answer => .ok answer
  | none => .error .mismatch

/-- Compare the value of a property with the expected one.  Only text can
contain something, and only another text. -/
def Operator.compare (op : Operator) (actual expected : Value) : Except Failure Bool :=
  match op with
  | .eq => .ok (actual.agree expected)
  | .ne => .ok (!actual.agree expected)
  | .gt => orderAnswer .more actual expected
  | .ge => orderAnswer .atLeast actual expected
  | .lt => orderAnswer .less actual expected
  | .le => orderAnswer .atMost actual expected
  | .contains =>
      match actual, expected with
      | .text hay, .text needle => .ok (Text.occurs needle.toList hay.toList)
      | .text _, _ => .error .mismatch
      | _, _ => .ok false

namespace Predicate

mutual
/-- The row meets the predicate. -/
def holds : Predicate → Value → Except Failure Bool
  | .compare name op expected, row =>
      match row.property name with
      | .null => .ok false
      | actual => op.compare actual expected
  | .all predicates, row => holdsAll predicates row
  | .any predicates, row => holdsAny predicates row
  | .not predicate, row =>
      match holds predicate row with
      | .ok answer => .ok (!answer)
      | .error failure => .error failure
  | .foreign test, row => test row

/-- The row meets all predicates, as far as one has to look. -/
def holdsAll : List Predicate → Value → Except Failure Bool
  | [], _ => .ok true
  | predicate :: predicates, row =>
      match holds predicate row with
      | .ok true => holdsAll predicates row
      | .ok false => .ok false
      | .error failure => .error failure

/-- The row meets one of the predicates, as far as one has to look. -/
def holdsAny : List Predicate → Value → Except Failure Bool
  | [], _ => .ok false
  | predicate :: predicates, row =>
      match holds predicate row with
      | .ok true => .ok true
      | .ok false => holdsAny predicates row
      | .error failure => .error failure
end

theorem holds_compare (name : String) (op : Operator) (expected row : Value) :
    holds (.compare name op expected) row =
      if (row.property name).isNull then .ok false
      else op.compare (row.property name) expected := by
  rw [holds]
  cases row.property name <;> rfl

theorem compare_null {row : Value} {name : String} (h : row.property name = .null)
    (op : Operator) (expected : Value) :
    holds (.compare name op expected) row = .ok false := by
  simp [holds, h]

theorem holdsAll_append (ps qs : List Predicate) (row : Value) :
    holdsAll (ps ++ qs) row =
      (match holdsAll ps row with
        | .ok true => holdsAll qs row
        | other => other) := by
  induction ps with
  | nil => rfl
  | cons p ps ih =>
      simp only [List.cons_append, holdsAll]
      split
      · exact ih
      · rfl
      · rfl

end Predicate

end PagedQuery
