import PagedQuery.Action
import PagedQuery.Journal
import PagedQuery.Query.Text

/-!
# Backends

A backend keeps the rows of entities and answers queries on them.  It works on
a state of its own, next to the journal of the repository.

Main results:

- Theorem `record_store`: a journal entry leaves the rows alone.
-/

namespace PagedQuery

/-- The state of a backend and the journal of what was done. -/
structure World (σ : Type) where
  store : σ
  journal : List Journal.Event := []

namespace World

variable {σ : Type}

/-- Add an event to the journal. -/
def record (w : World σ) (e : Journal.Event) : World σ :=
  { w with journal := w.journal ++ [e] }

/-- Change the state of the backend. -/
def updateStore (w : World σ) (f : σ → σ) : World σ := { w with store := f w.store }

@[simp]
theorem record_store (w : World σ) (e : Journal.Event) : (w.record e).store = w.store := rfl

@[simp]
theorem store_updateStore (w : World σ) (f : σ → σ) :
    (w.updateStore f).store = f w.store := rfl

end World

/-- What a repository asks of the place where its rows are kept.  The states
are `σ`, the stored objects `ρ`. -/
structure Backend (σ ρ : Type) where
  /-- A query is about to be made. -/
  openQuery : Action (World σ) Unit
  /-- The rows that a structural query selects, shaped by its projection. -/
  rows : Query → Action (World σ) (List Value)
  /-- The rows that a text query selects. -/
  textRows : TextQuery → Action (World σ) (List Value)
  /-- Run a text that changes rows; the answer says how many. -/
  execute : TextQuery → Action (World σ) Value
  /-- The property that identifies the rows of an entity. -/
  idName : String → Action (World σ) String
  /-- The object with an identifier, if there is one. -/
  get : String → Value → Action (World σ) (Option ρ)
  /-- Keep an object; the answer is the object as it is kept. -/
  save : String → ρ → Action (World σ) ρ
  /-- Remove an object. -/
  delete : String → ρ → Action (World σ) Unit
  /-- Set a property of an object that was got. -/
  assign : ρ → String → Value → Action (World σ) ρ
  /-- The properties of an object. -/
  view : ρ → Value
  /-- A row of an earlier answer as it is now. -/
  current : σ → Value → Except Failure Value

end PagedQuery
