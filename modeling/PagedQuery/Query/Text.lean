import PagedQuery.Query.CountText
import PagedQuery.Query.Structural

/-!
# Text queries

A text query is written by the caller.  Values are bound to its placeholders by
position or by name.

Main results:

- Theorem `values_bindAll`: values bound one after another come back in that
  order.
-/

namespace PagedQuery

/-- A query given as text, with the values bound to its placeholders. -/
structure TextQuery where
  text : String
  /-- The values bound by position, in increasing order of positions. -/
  positional : List (Int × Value) := []
  named : Entries := []
  offset : Option Amount := none
  limit : Option Amount := none

/-- Enter a value at a position, replacing the one that is there. -/
def putAt (index : Int) (value : Value) : List (Int × Value) → List (Int × Value)
  | [] => [(index, value)]
  | (other, old) :: rest =>
      if index < other then (index, value) :: (other, old) :: rest
      else if index == other then (index, value) :: rest
      else (other, old) :: putAt index value rest

namespace TextQuery

/-- Bind a value to a position. -/
def bindAt (q : TextQuery) (index : Int) (value : Value) : TextQuery :=
  { q with positional := putAt index value q.positional }

/-- Bind a value to a name. -/
def bindName (q : TextQuery) (name : String) (value : Value) : TextQuery :=
  { q with named := putEntry name value q.named }

/-- Leave out the first rows. -/
def setOffset (q : TextQuery) (amount : Value) : Except Failure TextQuery :=
  (Amount.ofValue? "offset" amount).map fun offset => { q with offset := offset }

/-- Keep at most a number of rows. -/
def setLimit (q : TextQuery) (amount : Value) : Except Failure TextQuery :=
  (Amount.ofValue? "limit" amount).map fun limit => { q with limit := limit }

/-- The values bound by position, in order. -/
def values (q : TextQuery) : List Value := q.positional.map (·.2)

/-- Values numbered from a position on. -/
def numbered (start : Nat) : List Value → List (Int × Value)
  | [] => []
  | value :: values => ((start : Int), value) :: numbered (start + 1) values

/-- A text query with values bound to the first positions, and with names. -/
def bindAll (text : String) (values : List Value) (params : Entries) : TextQuery where
  text := text
  positional := numbered 0 values
  named := putEntries [] params

theorem map_numbered (start : Nat) (values : List Value) :
    (numbered start values).map (·.2) = values := by
  induction values generalizing start with
  | nil => rfl
  | cons value values ih => simp [numbered, ih]

theorem values_bindAll (text : String) (values : List Value) (params : Entries) :
    (bindAll text values params).values = values :=
  map_numbered 0 values

end TextQuery

end PagedQuery
