import PagedQuery.Relational.Engine
import PagedQuery.Relational.Instance

/-!
# Storing objects

A new object becomes a record: defaults fill in what it lacks, and the engine puts the
record into its table.  For an object that was read only the changed columns are
written, in the record of the key that was read.
-/

namespace PagedQuery
namespace Relational

/-! ## Identifiers -/

/-- The values of a key: those of a sequence, or of a mapping by the properties of
the key, or the value alone. -/
def keyValues (s : Schema) (identifier : Value) : Except Failure (List Value) :=
  let values? : Option (List Value) :=
    match identifier with
    | .list items | .tuple items => some items
    | .mapping entries =>
        if entries.length == s.key.length then s.key.mapM fun name => entries.lookup name
        else none
    | value => some [value]
  match values? with
  | some values =>
      if values.length == s.key.length then .ok values else .error (.engine .request)
  | none => .error (.engine .request)

mutual
/-- An object can be found by a value. -/
def isFindable : Value → Bool
  | .list _ | .mapping _ | .object _ _ => false
  | .tuple items => areFindable items
  | _ => true

/-- An object can be found by several values. -/
def areFindable : List Value → Bool
  | [] => true
  | value :: values => isFindable value && areFindable values
end

/-- The values of a key, by which an object must be findable. -/
def checkFindable (values : List Value) : Except Failure Unit :=
  if areFindable values then .ok () else .error .mismatch

/-- The cells that the values of a key are sent as. -/
def sendKey : List Value → Except Failure (List Cell)
  | [] => .ok []
  | value :: values =>
      match storeValue value with
      | .error failure => .error failure
      | .ok cell =>
          match sendKey values with
          | .error failure => .error failure
          | .ok cells => .ok (cell :: cells)

/-- The record with the values of a key, if there is one. -/
def findRecord (e : Engine) (t : Table) (values : List Value) :
    Except Failure (Option Record) :=
  if !t.schema.present then .error (.engine .operation)
  else
    match sendKey values with
    | .error failure => .error failure
    | .ok sent => ofEngine (e.find t sent)

/-! ## Columns -/

/-- The cells of several columns. -/
def sendColumns (value : Column → Value) : List Column → Except Failure Record
  | [] => .ok []
  | c :: cs =>
      match storeValue (value c) with
      | .error failure => .error failure
      | .ok cell =>
          match sendColumns value cs with
          | .error failure => .error failure
          | .ok rest => .ok ((c.name, cell.towards c.kind) :: rest)

/-! ## New records -/

/-- What is sent for a column of a new record: the default of the column for
nothing. -/
def fillIn (c : Column) (value : Value) : Value :=
  match value, c.default with
  | .null, some text => .text text
  | value, _ => value

/-- Store a new object, which must be findable by its key: the table with its record,
and the record. -/
def insertObject (e : Engine) (t : Table) (values : Entries) :
    Except Failure (Table × Record) :=
  match checkFindable (valuesOf t.schema.key values) with
  | .error failure => .error failure
  | .ok () =>
      if !t.schema.present then .error (.engine .operation)
      else
        match sendColumns (fun c => fillIn c ((values.lookup c.name).getD .null))
          t.schema.columns with
        | .error failure => .error failure
        | .ok r => (ofEngine (e.insert t r)).map fun put => (⟨t.schema, put.1⟩, put.2)

/-! ## Changed and removed records -/

/-- Write changes into the record that has the key of stored values. -/
def updateRecord (e : Engine) (t : Table) (stored changes : Entries) : Except Failure Table :=
  if changes.isEmpty then .ok t
  else
    let changed (c : Column) : Bool := (changes.lookup c.name).isSome
    match sendColumns (fun c => (changes.lookup c.name).getD .null)
      (t.schema.columns.filter changed) with
    | .error failure => .error failure
    | .ok cells =>
        match findRecord e t (valuesOf t.schema.key stored) with
        | .error failure => .error failure
        | .ok none => .error (.engine .stale)
        | .ok (some old) =>
            (ofEngine (e.update t old (putEntries old cells))).map fun records =>
              ⟨t.schema, records⟩

/-- Remove the record that has the key of stored values, if there is one. -/
def deleteRecord (e : Engine) (t : Table) (stored : Entries) : Except Failure Table :=
  match findRecord e t (valuesOf t.schema.key stored) with
  | .error failure => .error failure
  | .ok none => .ok t
  | .ok (some r) => (ofEngine (e.remove t r)).map fun records => ⟨t.schema, records⟩

end Relational
end PagedQuery
