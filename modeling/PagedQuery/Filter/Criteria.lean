import PagedQuery.Filter.Basic
import PagedQuery.Failure
import PagedQuery.Predicate.Basic

/-!
# Filters as predicates

The filters of a request must all hold.  A filter on several properties becomes
one disjunction over them.

Main results:

- Theorem `criterion_ok`: a criterion is a comparison with the operator of its
  match type.
- Theorem `predicatesOf_length`: there is one predicate for each filter.
-/

namespace PagedQuery

/-- The operator of a match type. -/
def MatchType.operator : MatchType → Operator
  | eq => .eq
  | ne => .ne
  | gt => .gt
  | ge => .ge
  | lt => .lt
  | le => .le
  | like => .contains

/-- The predicate that compares a property with a value.  Only a text can be
looked for inside a property. -/
def criterion (name : String) (value : Value) (m : MatchType) : Except Failure Predicate :=
  if m == .like && !value.isText then
    .error (.invalidArgument
      ("LIKE on '" ++ name ++ "' needs a string value, got " ++ value.kindName)
      [("property", .text name), ("value_type", .text value.kindName)])
  else .ok (.compare name m.operator value)

/-- The criteria of several properties with one value. -/
def criteria (value : Value) (m : MatchType) : List String → Except Failure (List Predicate)
  | [] => .ok []
  | name :: names =>
      match criterion name value m with
      | .error failure => .error failure
      | .ok p =>
          match criteria value m names with
          | .error failure => .error failure
          | .ok ps => .ok (p :: ps)

/-- The predicate of a filter. -/
def PropertyFilter.predicate (f : PropertyFilter) : Except Failure Predicate :=
  match f.names with
  | [name] => criterion name f.value f.matchType
  | names => (criteria f.value f.matchType names).map .any

/-- The predicates of several filters, all of which must hold. -/
def predicatesOf : List PropertyFilter → Except Failure (List Predicate)
  | [] => .ok []
  | f :: fs =>
      match f.predicate with
      | .error failure => .error failure
      | .ok p =>
          match predicatesOf fs with
          | .error failure => .error failure
          | .ok ps => .ok (p :: ps)

theorem criterion_ok {name : String} {value : Value} {m : MatchType} {p : Predicate}
    (h : criterion name value m = .ok p) : p = .compare name m.operator value := by
  unfold criterion at h
  split at h
  · simp at h
  · simpa using h.symm

theorem predicatesOf_length {fs : List PropertyFilter} {ps : List Predicate}
    (h : predicatesOf fs = .ok ps) : ps.length = fs.length := by
  induction fs generalizing ps with
  | nil =>
      simp only [predicatesOf, Except.ok.injEq] at h
      simp [← h]
  | cons f fs ih =>
      simp only [predicatesOf] at h
      split at h
      · simp at h
      · split at h
        · simp at h
        · rename_i qs hqs
          simp only [Except.ok.injEq] at h
          simp [← h, ih hqs]

end PagedQuery
