/-!
# Sort keys

Main results:

- Theorem `ofName?_name`: a direction is found again under its name.
-/

namespace PagedQuery

/-- The direction of a sort. -/
inductive Direction where
  | asc
  | desc
  deriving DecidableEq, Repr

namespace Direction

/-- The written name of a direction. -/
def name : Direction → String
  | asc => "asc"
  | desc => "desc"

/-- The direction with a written name. -/
def ofName? : String → Option Direction
  | "asc" => some asc
  | "desc" => some desc
  | _ => none

theorem ofName?_name (d : Direction) : ofName? d.name = some d := by
  cases d <;> rfl

end Direction

/-- Rows are sorted by a property in a direction. -/
structure SortKey where
  field : String
  direction : Direction
  deriving DecidableEq, Repr

end PagedQuery
