import PagedQuery.Relational.Cell

/-!
# Tables

A table has columns, one for each property of its entity, and a primary key.
Records are kept in the order of a key that is a single whole number, and else in
the order in which they came.

Main results:

- Theorem `column?_mem`: a column that is found is a column of the schema.
- Theorem `insert_split`: a table puts a record among the others.
-/

namespace PagedQuery
namespace Relational

/-- A column of a table and the property that it belongs to. -/
structure Column where
  name : String
  kind : ColumnKind
  /-- A record must have something in this column. -/
  required : Bool := false
  /-- What a new record has in this column unless it brings something. -/
  default : Option String := none
  deriving DecidableEq, Repr

/-- What is known of an entity: its columns, its key, and whether its table
exists. -/
structure Schema where
  entity : String
  columns : List Column
  /-- The properties of the primary key. -/
  key : List String
  present : Bool := true
  deriving DecidableEq, Repr

/-- The cells of a row under the properties of its entity. -/
abbrev Record := List (String × Cell)

/-- The report of a property that an entity does not have. -/
def unmappedProperty (entity name : String) : Failure :=
  .invalidArgument (entity ++ " has no mapped property '" ++ name ++ "'")
    [("entity", .text entity), ("property", .text name)]

namespace Schema

/-- The column of a property, if there is one. -/
def column? (s : Schema) (name : String) : Option Column :=
  s.columns.find? (·.name == name)

/-- The column of a property, which must exist. -/
def column (s : Schema) (name : String) : Except Failure Column :=
  match s.column? name with
  | some c => .ok c
  | none => .error (unmappedProperty s.entity name)

/-- The only property of the key; a key of several is reported. -/
def idName (s : Schema) : Except Failure String :=
  match s.key with
  | [name] => .ok name
  | names =>
      let shown := Value.list (names.map .text)
      .error (.invalidArgument (s.entity ++ " has a composite primary key " ++ shown.shown)
        [("entity", .text s.entity), ("primary_key", shown)])

/-- The key is a single column of whole numbers. -/
def hasIntegerKey (s : Schema) : Bool :=
  match s.key.map s.column? with
  | [some c] => c.kind == .integer
  | _ => false

theorem column?_mem {s : Schema} {name : String} {c : Column} (h : s.column? name = some c) :
    c ∈ s.columns ∧ c.name = name := by
  refine ⟨List.mem_of_find?_eq_some h, ?_⟩
  simpa using List.find?_some h

end Schema

namespace Record

/-- The cell of a property. -/
def cell (r : Record) (name : String) : Cell := (r.lookup name).getD .null

/-- The cells of several properties. -/
def cells (r : Record) (names : List String) : List Cell := names.map r.cell

/-- The values of a record. -/
def values (r : Record) : Entries := r.map fun entry => (entry.1, entry.2.toValue)

/-- A record as an object. -/
def toValue (r : Record) : Value := .object r.values

end Record

/-- A table with its records. -/
structure Table where
  schema : Schema
  records : List Record
  deriving DecidableEq, Repr

/-- A record has the key that was sent. -/
def hasSentKey (s : Schema) (sent : List Cell) (r : Record) : Bool :=
  (s.key.zip sent).all fun pair =>
    match s.column? pair.1 with
    | some c => compareCells c.kind .eq (r.cell c.name) pair.2 == some true
    | none => false

/-- Lists of cells in lexicographic order. -/
def compareKeys : List Cell → List Cell → Ordering
  | [], [] => .eq
  | [], _ :: _ => .lt
  | _ :: _, [] => .gt
  | a :: as, b :: bs =>
      match a.order b with
      | .eq => compareKeys as bs
      | o => o

namespace Table

/-- The key of a record. -/
def keyOf (t : Table) (r : Record) : List Cell := r.cells t.schema.key

/-- Put a record among records in the order of a key. -/
def insertRecord (key : Record → List Cell) (r : Record) : List Record → List Record
  | [] => [r]
  | other :: rest =>
      match compareKeys (key r) (key other) with
      | .lt => r :: other :: rest
      | _ => other :: insertRecord key r rest

/-- Some record has a key. -/
def hasKey (t : Table) (key : List Cell) : Bool :=
  t.records.any fun r => compareKeys (t.keyOf r) key == .eq

/-- The table with another record. -/
def insert (t : Table) (r : Record) : Table :=
  { t with records :=
      if t.schema.hasIntegerKey then insertRecord t.keyOf r t.records else t.records ++ [r] }

/-- The table without the records of a key. -/
def erase (t : Table) (key : List Cell) : Table :=
  { t with records := t.records.filter fun r => compareKeys (t.keyOf r) key != .eq }

/-- The table with a record in the place of the one with a key. -/
def replace (t : Table) (key : List Cell) (r : Record) : Table :=
  if t.schema.hasIntegerKey then (t.erase key).insert r
  else
    { t with records :=
        t.records.map fun old => if compareKeys (t.keyOf old) key == .eq then r else old }

/-- A record has what the table requires: something in the required columns and
in the key, and a whole number as a single whole-number key. -/
def admits (t : Table) (r : Record) : Bool :=
  (t.schema.columns.all fun c => !c.required || r.cell c.name != .null) &&
    (t.keyOf r).all (· != .null) &&
    (!t.schema.hasIntegerKey ||
      (t.keyOf r).all fun cell =>
        match cell with
        | .integer _ => true
        | _ => false)

/-- A record is put among others, which stay in their order. -/
theorem insertRecord_split (key : Record → List Cell) (r : Record) (records : List Record) :
    ∃ before after, records = before ++ after ∧
      insertRecord key r records = before ++ r :: after := by
  induction records with
  | nil => exact ⟨[], [], rfl, rfl⟩
  | cons first rest ih =>
      unfold insertRecord
      split
      · exact ⟨[], first :: rest, rfl, rfl⟩
      · obtain ⟨before, after, hrest, hput⟩ := ih
        exact ⟨first :: before, after, by rw [hrest]; rfl, by rw [hput]; rfl⟩

/-- A table puts a record among the others, which stay in their order. -/
theorem insert_split (t : Table) (r : Record) :
    ∃ before after, t.records = before ++ after ∧
      t.insert r = { t with records := before ++ r :: after } := by
  unfold insert
  split
  · obtain ⟨before, after, hrecords, hput⟩ := insertRecord_split t.keyOf r t.records
    exact ⟨before, after, hrecords, by rw [hput]⟩
  · exact ⟨t.records, [], (List.append_nil _).symm, rfl⟩

end Table

end Relational
end PagedQuery
