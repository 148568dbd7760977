import PagedQuery.Collection.Store

/-!
# Shared objects

An object that was read from a store is the one in the store: when one of its
attributes is set, the change is seen wherever the object stands, in every list
of rows and on every page.
-/

namespace PagedQuery
namespace Collection

/-- A value with an attribute set.  Only objects have attributes that can be set,
and neither their class nor the mapping of all attributes can be set to any
value. -/
def withAttribute (target : Value) (name : String) (value : Value) : Except Failure Value :=
  if name == Value.classAttribute then .error .mismatch
  else
    match target with
    | .object attributes label =>
        if name == Value.allAttributes then .error .lacking
        else .ok (.object (putEntry name value attributes) label)
    | _ => .error .lacking

/-- An object in the place of the one with its label. -/
def replaceRow (object row : Value) : Value :=
  if row.label?.isSome && row.label? == object.label? then object else row

namespace Store

/-- Put an object in the place of the one with its label, wherever that
stands. -/
def replaceShared (s : Store) (object : Value) : Store :=
  { s with collections :=
      s.collections.map fun entry => (entry.1, entry.2.map (replaceRow object)) }

/-- The object with a label, if it is among the rows. -/
def shared? (s : Store) (label : Nat) : Option Value :=
  s.collections.findSome? fun entry => entry.2.find? (·.label? == some label)

/-- A row as it is now. -/
def current (s : Store) (row : Value) : Value :=
  match row.label? with
  | some label => (s.shared? label).getD row
  | none => row

/-- An object that is new to the store, with a label of its own. -/
def receive (s : Store) (object : Value) : Value × Store :=
  (object.labelled s.nextLabel, { s with nextLabel := s.nextLabel + 1 })

end Store

end Collection
end PagedQuery
