import PagedQuery.Filter.Spec

/-!
# Filters of a request

Request parameters whose names start with an agreed text carry filters.  Blank
parameters are skipped, and of a sequence only the first item counts.

Main results:

- Theorem `requestFilters_skip`: a parameter without a filter changes nothing.
-/

namespace PagedQuery

open Text

/-- Of a sequence the first item, of an empty one nothing, of anything else the
value itself. -/
def leadingItem : Value → Value
  | .list [] | .tuple [] => .null
  | .list (item :: _) | .tuple (item :: _) => item
  | value => value

/-- The text that a request parameter carries, unless it is nothing or blank. -/
def requestText? (value : Value) : Option String :=
  match leadingItem value with
  | .null => none
  | item => if strip item.plain == "" then none else some item.plain

/-- The text and the value of the filter that a request parameter carries. -/
def requestFilter? (start : String) (param : String × Value) : Option (String × String) :=
  if start.toList.isPrefixOf param.1.toList then
    (requestText? param.2).map fun text =>
      (.ofList (param.1.toList.drop start.length), text)
  else none

/-- The filters of a request, in the order of its parameters; the first text
that is no filter is rejected. -/
def requestFilters (start : String) :
    List (String × Value) → Except PropertyFilter.Rejection (List PropertyFilter)
  | [] => .ok []
  | param :: params =>
      match requestFilter? start param with
      | none => requestFilters start params
      | some (spec, raw) =>
          match PropertyFilter.parse spec (some raw) with
          | .error rejection => .error rejection
          | .ok f =>
              match requestFilters start params with
              | .error rejection => .error rejection
              | .ok fs => .ok (f :: fs)

theorem requestFilters_skip {start : String} {param : String × Value}
    (h : requestFilter? start param = none) (params : List (String × Value)) :
    requestFilters start (param :: params) = requestFilters start params := by
  simp [requestFilters, h]

end PagedQuery
