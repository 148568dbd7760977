import PagedQuery.Relational.Database
import PagedQuery.Repository.Backend
import PagedQuery.Value.Whole

/-!
# Databases as a backend

Structural queries are run as statements, objects are kept in tables, and query
texts are sent as they are written.  What the engine refuses while it runs a
statement is reported as a failed execution; what it refuses while a statement
is built reaches the caller as it is.  A write that fails takes back all that was
written since the last commit.
-/

namespace PagedQuery
namespace Relational

/-- A refusal of the engine as a failed execution; other failures stay. -/
def reported (message : String) : Failure → Failure
  | .engine fault => .execution message [] (some (.engine fault))
  | failure => failure

/-- A result in which refusals of the engine are reported. -/
def reporting {α : Type} (message : String) : Except Failure α → Except Failure α
  | .ok a => .ok a
  | .error failure => .error (reported message failure)

/-- The table of an entity. -/
def tableOf (entity : String) : Action (World Database) Table := do
  .ofExcept ((← Action.state).store.table entity)

/-- Note a statement in the journal, if the database does so. -/
def echo (fields : Entries) : Action (World Database) Unit :=
  .change fun w =>
    if w.store.echo then w.record ⟨.debug, "sql.execute", fields⟩ else w

/-! ## Queries -/

/-- Run a statement on a table, which must exist. -/
def runOn (db : Database) (t : Table) (s : Selection Value) : Except Failure Selected :=
  db.ask (if t.schema.present then s.run db.engine t.records else .error (.engine .operation))

/-- Selected records as objects that the database knows, other rows as they are. -/
def present (s : Schema) : Selected → Action (World Database) (List Value)
  | .rows rows => return rows
  | .records records => do
      let (rows, db) := Database.presented s records (← Action.state).store
      .change fun w => w.updateStore fun _ => db
      return rows

/-- The rows that a structural query selects. -/
def fetchRows (q : Query) : Action (World Database) (List Value) := do
  let t ← tableOf q.entity
  let s ← .ofExcept (Selection.ofQuery t.schema q)
  echo [("statement", .bool true)]
  let db := (← Action.state).store
  let selected ← .ofExcept (reporting ("query on " ++ q.entity ++ " failed") (runOn db t s))
  present t.schema selected

/-- Send the statement of a text query. -/
def sendText (q : TextQuery) : Action (World Database) (Except Failure (List Value × Value)) := do
  let s ← .ofExcept (Statement.ofTextQuery q)
  echo [("statement", .text s.sql), ("params", .mapping s.params)]
  .change fun w => w.updateStore fun db => { db with sent := db.sent ++ [s] }
  let db := (← Action.state).store
  return db.ask (match db.script.lookup s.sql with
    | some (.answer rows affected) => .ok (rows, affected)
    | some (.giveUp message) => .error (.broken message)
    | none => .error (.engine .other))

/-- A row as a tuple. -/
def asTuple (row : Value) : Except Failure Value := row.toRows.map .tuple

/-- The rows that a text query selects. -/
def fetchText (q : TextQuery) : Action (World Database) (List Value) := do
  let reply ← sendText q
  let answer ← .ofExcept (reporting ("text query failed: " ++ q.text) reply)
  .ofExcept (mapRows asTuple answer.1)

/-- Run a text that changes rows. -/
def execute (q : TextQuery) : Action (World Database) Value := do
  let reply ← sendText q
  let answer ← .ofExcept (reporting ("update statement failed: " ++ q.text) reply)
  return answer.2

/-! ## Objects -/

/-- The identifying property of an entity. -/
def idName (entity : String) : Action (World Database) String := do
  .ofExcept (← tableOf entity).schema.idName

/-- Know an object from now on. -/
def hold (x : Instance) : Action (World Database) Instance := do
  .change fun w => w.updateStore (·.hold x)
  return x

/-- The object with an identifier, if there is one: the one that is known to stand
for its record, else a new one. -/
def get (entity : String) (identifier : Value) : Action (World Database) (Option Instance) := do
  let t ← tableOf entity
  let message := "get of " ++ entity ++ " " ++ identifier.shown ++ " failed"
  let values ← .ofExcept (reporting message (keyValues t.schema identifier))
  .ofExcept (checkFindable values)
  let db := (← Action.state).store
  .ofExcept (reporting message (db.ask (.ok ())))
  match db.heldAt? entity values with
  | some x =>
      match db.refreshed x with
      | .ok x => return some (← hold x)
      | .error _ => do
          let _ ← hold x.detached
          return none
  | none =>
      match ← .ofExcept (reporting message (findRecord db.engine t values)) with
      | some r => return some (← hold (db.objectOf t.schema r))
      | none => return none

/-- Write to the database.  A write that fails suspends the database. -/
def flush {α : Type} (message : String) (write : Engine → Except Failure α) :
    Action (World Database) α := do
  let db := (← Action.state).store
  match db.ask (write db.engine) with
  | .ok a => return a
  | .error failure => do
      .change fun w => w.updateStore Database.suspend
      .fail (reported message failure)

/-- Store an object: a new one as a new record, the changes of any other one in its
record. -/
def save (entity : String) (x : Instance) : Action (World Database) Instance := do
  let t ← tableOf x.schema.entity
  let message := "save of " ++ entity ++ " failed"
  match x.link with
  | none =>
      let (t, r) ← flush message fun e => insertObject e t x.values
      .change fun w => w.updateStore (·.setTable t)
      hold (x.stored r (← Action.state).store.nextLabel)
  | some l =>
      let t ← flush message fun e => updateRecord e t l.stored (x.changes l)
      .change fun w => w.updateStore (·.setTable t)
      hold (x.written l)

/-- Remove an object, which must have been read. -/
def delete (entity : String) (x : Instance) : Action (World Database) Unit := do
  let t ← tableOf x.schema.entity
  let message := "delete of " ++ entity ++ " failed"
  match x.link with
  | none => .fail (reported message (.engine .request))
  | some l =>
      let t ← flush message fun e => deleteRecord e t l.stored
      .change fun w => w.updateStore fun db => (db.setTable t).hold x.detached

/-- A database as a backend. -/
def backend : Backend Database Instance where
  openQuery := .change id
  rows := fetchRows
  textRows := fetchText
  execute := execute
  idName := idName
  get := get
  save := save
  delete := delete
  assign x name value := .ofExcept (x.assign name value)
  view := Instance.view
  current := Database.current

end Relational
end PagedQuery
