import PagedQuery.Relational.Embedded
import PagedQuery.Relational.Statement
import PagedQuery.Relational.Storing

/-!
# Databases

A database holds the tables of the known entities, which its engine reads and
writes, and can go back to the state of the last commit.  A write that fails takes it
back there at once, and nothing more is asked of the engine until it has gone back.  It
knows the objects that stand for records: reading a record again gives the same
object, with the values that it has.  Statements given as text are answered by a script
and recorded.

Main results:

- Theorem `table?_hold`: knowing an object leaves the tables alone.
- Theorem `presented_frame`: showing records leaves everything else alone.
- Theorem `presented_length`: every record is shown as one object.
-/

namespace PagedQuery
namespace Relational

/-- How a statement given as text is answered. -/
inductive Reply where
  /-- Rows for a query, and the number of rows for a change. -/
  | answer (rows : List Value) (affected : Value)
  /-- The computation gives up with a message. -/
  | giveUp (message : String)

/-- The tables of the known entities, with the state of the last commit. -/
structure Database where
  engine : Engine := .embedded
  tables : List Table := []
  committed : List Table := []
  /-- The objects that stand for records. -/
  held : List Instance := []
  /-- The label that the next object gets. -/
  nextLabel : Nat := 0
  script : List (String × Reply) := []
  /-- The statements given as text that were handed over. -/
  sent : List Statement := []
  /-- A write has failed, and this was not taken back yet. -/
  suspended : Bool := false
  /-- Statements are noted in the journal. -/
  echo : Bool := false

namespace Database

/-- The table of an entity. -/
def table? (db : Database) (entity : String) : Option Table :=
  db.tables.find? (·.schema.entity == entity)

/-- The table of an entity, which must be known. -/
def table (db : Database) (entity : String) : Except Failure Table :=
  match db.table? entity with
  | some t => .ok t
  | none => .error (.missing (.text entity))

/-- Put a table in the place of the one of its entity. -/
def setTable (db : Database) (t : Table) : Database :=
  { db with tables := db.tables.map fun other =>
      if other.schema.entity == t.schema.entity then t else other }

/-- Keep the present state as the one to go back to. -/
def commit (db : Database) : Database := { db with committed := db.tables }

/-- Go back to the state of the last commit; the objects are read again before
they are used. -/
def rollback (db : Database) : Database :=
  { db with
    tables := db.committed
    held := db.held.map Instance.returned
    suspended := false }

/-- The database after a write that failed: it is back at the last commit, but nothing is
asked of its engine any more. -/
def suspend (db : Database) : Database := { db.rollback with suspended := true }

/-- What the engine is asked for, unless nothing is asked of it any more. -/
def ask {α : Type} (db : Database) (answer : Except Failure α) : Except Failure α :=
  if db.suspended then .error (.engine .pending) else answer

/-! ## Objects -/

/-- The object with a label. -/
def labelled? (db : Database) (label : Nat) : Option Instance :=
  db.held.find? (·.label? == some label)

/-- The object that stands for the record of a key. -/
def heldAt? (db : Database) (entity : String) (key : List Value) : Option Instance :=
  db.held.find? (·.standsAt entity key)

/-- Know an object: in the place of the one with its label, or as a new one. -/
def hold (db : Database) (x : Instance) : Database :=
  if db.held.any (·.label? == x.label?) then
    { db with held := db.held.map fun y => if y.label? == x.label? then x else y }
  else { db with held := db.held ++ [x], nextLabel := db.nextLabel + 1 }

/-- Forget all objects but those with given labels. -/
def release (db : Database) (labels : List Nat) : Database :=
  { db with held := db.held.filter fun x => x.label?.any labels.contains }

/-- The record that an object stands for. -/
def recordOf? (db : Database) (x : Instance) : Option Record :=
  match db.table? x.schema.entity, x.link with
  | some t, some l =>
      match findRecord db.engine t l.key with
      | .ok r => r
      | .error _ => none
  | _, _ => none

/-- The object with its values read again where they must be; its record must be
there then. -/
def refreshed (db : Database) (x : Instance) : Except Failure Instance :=
  if x.link.any (·.stale) then
    db.ask (match db.recordOf? x with
      | some r => .ok (x.reread r)
      | none => .error (.engine .vanished))
  else .ok x

/-- A row of an earlier answer as it is now. -/
def current (db : Database) (row : Value) : Except Failure Value :=
  match row.label?.bind db.labelled? with
  | none => .ok row
  | some x => (db.refreshed x).map Instance.view

/-- The object that stands for a record, which is new unless it is known. -/
def objectOf (db : Database) (s : Schema) (r : Record) : Instance :=
  match db.heldAt? s.entity (valuesOf s.key r.values) with
  | some x => if x.link.any (·.stale) then x.reread r else x
  | none => .ofRecord s r db.nextLabel

/-- Records as objects, and the database that knows these. -/
def presented (s : Schema) : List Record → Database → List Value × Database
  | [], db => ([], db)
  | r :: rs, db =>
      let x := db.objectOf s r
      let (rows, db) := presented s rs (db.hold x)
      (x.view :: rows, db)

/-- Nothing but objects and labels changes when an object is known. -/
theorem hold_frame (db : Database) (x : Instance) :
    ∃ held label, db.hold x = { db with held := held, nextLabel := label } := by
  unfold hold
  split
  · exact ⟨_, _, rfl⟩
  · exact ⟨_, _, rfl⟩

theorem table?_hold (db : Database) (x : Instance) (entity : String) :
    (db.hold x).table? entity = db.table? entity := by
  obtain ⟨held, label, hhold⟩ := db.hold_frame x
  rw [hhold]
  rfl

/-- Nothing but objects and labels changes when records are presented. -/
theorem presented_frame (s : Schema) (rs : List Record) (db : Database) :
    ∃ held label, (presented s rs db).2 = { db with held := held, nextLabel := label } := by
  induction rs generalizing db with
  | nil => exact ⟨_, _, rfl⟩
  | cons r rs ih =>
      obtain ⟨held, label, hhold⟩ := db.hold_frame (db.objectOf s r)
      obtain ⟨held', label', hrest⟩ := ih (db.hold (db.objectOf s r))
      exact ⟨held', label', by rw [presented, hrest, hhold]⟩

theorem presented_length (s : Schema) (rs : List Record) (db : Database) :
    (presented s rs db).1.length = rs.length := by
  induction rs generalizing db with
  | nil => rfl
  | cons r rs ih => simp [presented, ih]

end Database

end Relational
end PagedQuery
