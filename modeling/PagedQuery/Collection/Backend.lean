import PagedQuery.Collection.Shared
import PagedQuery.Repository.Backend
import PagedQuery.Value.Whole

/-!
# Lists of rows as a backend

Structural queries are evaluated row by row, and query texts are answered by
their responders.  Every execution is recorded before it is carried out.
-/

namespace PagedQuery
namespace Collection

/-- Record an execution. -/
def note (kind : ExecutionKind) (target : String) (projection : Projection) :
    Action (World Store) Unit :=
  .change fun w => w.updateStore (·.note ⟨kind, target, projection⟩)

/-- The rows of an entity, which must be known. -/
def rowsOf (entity : String) : Action (World Store) (List Value) := do
  .ofExcept ((← Action.state).store.rows entity)

/-- The answer of the responder of a query text, which must be registered. -/
def respond (q : TextQuery) : Action (World Store) Value := do
  match ← .ofExcept ((← Action.state).store.responder q.text) with
  | .fixed answer => return answer
  | .computed answer => .ofExcept (answer q)

/-- The identifying property of an entity. -/
def idName (entity : String) : Action (World Store) String := do
  return (← Action.state).store.idName entity

/-- The rows that a structural query selects. -/
def fetchRows (q : Query) : Action (World Store) (List Value) := do
  note .structured q.entity q.projection
  .ofExcept (answer q (← rowsOf q.entity))

/-- The rows that a text query selects. -/
def fetchText (q : TextQuery) : Action (World Store) (List Value) := do
  note .text q.text .rows
  let answer ← respond q
  .ofExcept (cutRows q.offset q.limit (← .ofExcept answer.toRows))

/-- Run a text that changes rows; its answer must be a number. -/
def execute (q : TextQuery) : Action (World Store) Value := do
  note .update q.text .rows
  let answer ← respond q
  return .int (← .ofExcept answer.toWhole)

/-- The first row with an identifier; a row that is nothing counts as none. -/
def get (entity : String) (identifier : Value) : Action (World Store) (Option Value) := do
  note .get entity .rows
  let rows ← rowsOf entity
  let name ← idName entity
  return ((position? name identifier rows).bind fun i => rows[i]?).filter fun row => !row.isNull

/-- Keep an object, which must have an identifier. -/
def save (entity : String) (object : Value) : Action (World Store) Value := do
  note .save entity .rows
  let name ← idName entity
  if (object.property name).isNull then
    .fail (.invalidArgument
      (Text.quoted entity ++ " object has no '" ++ name ++ "' to save under")
      [("entity", .text (Text.quoted entity))])
  else
    .change fun w =>
      w.updateStore fun s => s.setRows entity (keep name object ((s.rows? entity).getD []))
    return object

/-- Remove the first row with the identifier of an object. -/
def delete (entity : String) (object : Value) : Action (World Store) Unit := do
  note .delete entity .rows
  let name ← idName entity
  let identifier := object.property name
  let rows ← rowsOf entity
  match position? name identifier rows with
  | some i => .change fun w => w.updateStore fun s => s.setRows entity (rows.eraseIdx i)
  | none =>
      .fail (.execution
        ("no stored " ++ Text.quoted entity ++ " with " ++ name ++ "=" ++
          identifier.shown ++ " to delete")
        [("identifier", identifier)] none)

/-- An object that is new to the store. -/
def receive (object : Value) : Action (World Store) Value := do
  let (object, store) := (← Action.state).store.receive object
  .change fun w => w.updateStore fun _ => store
  return object

/-- Set an attribute of an object, wherever it stands. -/
def assign (object : Value) (name : String) (value : Value) : Action (World Store) Value := do
  let changed ← .ofExcept (withAttribute object name value)
  .change fun w => w.updateStore (·.replaceShared changed)
  return changed

/-- Lists of rows as a backend. -/
def backend : Backend Store Value where
  openQuery := .change fun w => w.updateStore fun s => { s with created := s.created + 1 }
  rows := fetchRows
  textRows := fetchText
  execute := execute
  idName := idName
  get := get
  save := save
  delete := delete
  assign := assign
  view := id
  current s row := .ok (s.current row)

end Collection
end PagedQuery
