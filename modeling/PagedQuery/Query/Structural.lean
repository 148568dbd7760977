import PagedQuery.Predicate.Basic
import PagedQuery.Query.Amount
import PagedQuery.SortKey
import PagedQuery.Text.CaseMap
import PagedQuery.Transform

/-!
# Structural queries

A structural query selects rows of one entity by predicates, sorts them, cuts
out a slice and shapes what is left.  For counting, a copy without sorts, slice
and shape is made; the shape of the query itself can be taken as a snapshot and
put back.

Main results:

- Theorem `restore_shape`: putting back the shape that a query has changes
  nothing.
- Theorem `countShape_predicates`: the count query keeps the predicates.
-/

namespace PagedQuery

open Text

/-- What a query makes of a matching row. -/
inductive Projection where
  /-- The row as it is. -/
  | rows
  /-- The number of matching rows, as one row. -/
  | count
  /-- The named properties of each row. -/
  | properties (name : String) (names : List String)
  deriving DecidableEq, Repr

namespace Projection

/-- The projection on named properties; there must be at least one. -/
def ofNames : List String → Except Failure Projection
  | [] => .error (.invalidArgument "Properties projection needs at least one name" [])
  | name :: names => .ok (properties name names)

end Projection

/-- A query over the rows of one entity. -/
structure Query where
  entity : String
  predicates : List Predicate := []
  sorts : List SortKey := []
  offset : Option Amount := none
  limit : Option Amount := none
  projection : Projection := .rows
  transform : Option Transform := none

/-- The parts of a query that counting replaces for a while. -/
structure QueryShape where
  projection : Projection
  transform : Option Transform
  sorts : List SortKey

/-- Read the direction of a sort from its name in any case. -/
def readDirection (name : String) : Except Failure Direction :=
  match Direction.ofName? (lowerText name) with
  | some direction => .ok direction
  | none => .error (.unfit (quoted (lowerText name) ++ " is not a valid SortDirection"))

namespace Query

/-- Add a predicate that the rows must meet as well. -/
def addPredicate (q : Query) (p : Predicate) : Query :=
  { q with predicates := q.predicates ++ [p] }

/-- Add a sort key behind those that are there. -/
def addSort (q : Query) (key : SortKey) : Query := { q with sorts := q.sorts ++ [key] }

/-- Leave out the first rows. -/
def setOffset (q : Query) (amount : Value) : Except Failure Query :=
  (Amount.ofValue? "offset" amount).map fun offset => { q with offset := offset }

/-- Keep at most a number of rows. -/
def setLimit (q : Query) (amount : Value) : Except Failure Query :=
  (Amount.ofValue? "limit" amount).map fun limit => { q with limit := limit }

/-- The shape of a query. -/
def shape (q : Query) : QueryShape := ⟨q.projection, q.transform, q.sorts⟩

/-- Put a shape back on a query. -/
def restore (q : Query) (s : QueryShape) : Query :=
  { q with projection := s.projection, transform := s.transform, sorts := s.sorts }

/-- The query that counts the rows: the same predicates and nothing else. -/
def countShape (q : Query) : Query :=
  { q with sorts := [], offset := none, limit := none, projection := .count,
           transform := none }

/-- Apply the transform of a query to its rows. -/
def transformed (q : Query) (rows : List Value) : Except Failure (List Value) :=
  match q.transform with
  | none => .ok rows
  | some transform => mapRows transform.apply rows

@[simp]
theorem restore_shape (q : Query) : q.restore q.shape = q := rfl

@[simp]
theorem countShape_predicates (q : Query) : q.countShape.predicates = q.predicates := rfl

end Query

end PagedQuery
