import PagedQuery.Filter.Criteria
import PagedQuery.Repository.Backend
import PagedQuery.Value.Whole

/-!
# Repositories

A repository answers queries on the rows of one entity, whatever the backend.
Bad arguments are refused before a query is made.

Main results:

- Theorem `equalities_ok`: names and values that fit make one comparison each.
-/

namespace PagedQuery

open Numeric

/-- A repository of one entity over a backend. -/
structure Repository (σ ρ : Type) where
  backend : Backend σ ρ
  entity : String

/-- Comparisons of several properties with a value each. -/
def equalities (names : List String) (values : List Value) :
    Except Failure (List Predicate) :=
  if names.length != values.length then
    .error (.invalidArgument
      ("got " ++ natText names.length ++ " property names but " ++
        natText values.length ++ " values")
      [("names", .list (names.map .text))])
  else .ok (List.zipWith (fun name value => .compare name .eq value) names values)

namespace Repository

variable {σ ρ : Type} (r : Repository σ ρ)

/-- Add an event about the entity to the journal. -/
def log (level : Journal.Level) (name : String) (fields : Entries) :
    Action (World σ) Unit :=
  .change fun w =>
    w.record (Journal.Event.under [("entity", .text r.entity)] ⟨level, name, fields⟩)

/-! ## Single objects -/

/-- The property that identifies the rows. -/
def idName : Action (World σ) String := r.backend.idName r.entity

/-- The object with an identifier, if there is one. -/
def get (identifier : Value) : Action (World σ) (Option ρ) :=
  r.backend.get r.entity identifier

/-- The object with an identifier; there must be one. -/
def load (identifier : Value) : Action (World σ) ρ := do
  match ← r.get identifier with
  | some object => return object
  | none => .fail (.ofKind (.notFound r.entity identifier))

/-- The identifier of an object. -/
def identifierOf (object : ρ) : Action (World σ) Value := do
  return (r.backend.view object).property (← r.idName)

/-- Keep an object: a new row, or the row with its identifier replaced. -/
def save (object : ρ) : Action (World σ) Unit := do
  let kept ← r.backend.save r.entity object
  r.log .debug "entity.saved" [("entity_id", ← r.identifierOf kept)]

/-- Remove an object. -/
def delete (object : ρ) : Action (World σ) Unit := do
  r.backend.delete r.entity object
  r.log .debug "entity.deleted" [("entity_id", ← r.identifierOf object)]

/-- Remove the object with an identifier; there must be one. -/
def deleteById (identifier : Value) : Action (World σ) Unit := do
  r.delete (← r.load identifier)

/-- Set properties of an object, one after another. -/
def assignAll (object : ρ) : Entries → Action (World σ) ρ
  | [] => return object
  | (name, value) :: changes => do
      assignAll (← r.backend.assign object name value) changes

/-- Change the object with an identifier and keep it; there must be one. -/
def update (identifier : Value) (changes : Entries) : Action (World σ) Unit := do
  r.save (← r.assignAll (← r.load identifier) changes)

/-! ## Structural queries -/

/-- A query for the rows that meet all predicates. -/
def createQuery (predicates : List Predicate) : Action (World σ) Query := do
  r.backend.openQuery
  return { entity := r.entity, predicates := predicates }

/-- The rows of a query, transformed. -/
def fetchAll (q : Query) : Action (World σ) (List Value) := do
  .ofExcept (q.transformed (← r.backend.rows q))

/-- The first column of the first row of a query, not transformed. -/
def fetchScalar (q : Query) : Action (World σ) Value := do
  return Value.scalarOf (← r.backend.rows q)

/-- The rows that meet all predicates. -/
def find (predicates : List Predicate) : Action (World σ) (List Value) := do
  r.fetchAll (← r.createQuery predicates)

/-- The rows of which a property compares with a value. -/
def findBy (name : String) (value : Value) (m : MatchType) :
    Action (World σ) (List Value) := do
  r.find [← .ofExcept (criterion name value m)]

/-- The rows of which several properties equal a value each. -/
def findByNames (names : List String) (values : List Value) :
    Action (World σ) (List Value) := do
  r.find (← .ofExcept (equalities names values))

/-- The rows that pass all filters. -/
def findByFilters (filters : List PropertyFilter) : Action (World σ) (List Value) := do
  r.find (← .ofExcept (predicatesOf filters))

/-- The first row that meets all predicates, if any. -/
def findUnique (predicates : List Predicate) : Action (World σ) (Option Value) := do
  let q ← r.createQuery predicates
  return (← r.fetchAll { q with limit := some (.whole 1) }).head?

/-- The first row of which a property equals a value, if any. -/
def findUniqueBy (name : String) (value : Value) : Action (World σ) (Option Value) :=
  r.findUnique [.compare name .eq value]

/-- The first row of which several properties equal a value each, if any. -/
def findUniqueByNames (names : List String) (values : List Value) :
    Action (World σ) (Option Value) := do
  r.findUnique (← .ofExcept (equalities names values))

/-- All rows, sorted by a property unless none is named. -/
def getAll (orderBy : String) (direction : Direction) : Action (World σ) (List Value) := do
  let q ← r.createQuery []
  r.fetchAll (if orderBy == "" then q else q.addSort ⟨orderBy, direction⟩)

/-! ## Counting -/

/-- How a count ended, and the query afterwards. -/
structure Counted where
  total : Except Failure Int
  query : Query

/-- Count the rows of a query, its sorts, slice and shape apart.  Afterwards the
query has its shape again, however the count ended. -/
def count (q : Query) : Action (World σ) Counted := do
  let shape := q.shape
  let answer ← (r.fetchScalar q.countShape).outcome
  return { total := answer.bind Value.toCount, query := q.restore shape }

/-- The number of rows of a query, its sorts, slice and shape apart. -/
def countResult (q : Query) : Action (World σ) Int := do
  .ofExcept (← r.count q).total

/-! ## Text queries -/

/-- A text query with values bound to it. -/
def createTextQuery (text : String) (values : List Value) (params : Entries) :
    Action (World σ) TextQuery := do
  .ofExcept (checkBindings text values params)
  r.backend.openQuery
  return TextQuery.bindAll text values params

/-- The first column of the first row of a text query. -/
def fetchTextScalar (q : TextQuery) : Action (World σ) Value := do
  return Value.scalarOf (← r.backend.textRows q)

/-- The rows of a query text. -/
def findByQuery (text : String) (values : List Value) (params : Entries) :
    Action (World σ) (List Value) := do
  r.backend.textRows (← r.createTextQuery text values params)

/-- The first row of a query text, if any. -/
def findUniqueByQuery (text : String) (values : List Value) (params : Entries) :
    Action (World σ) (Option Value) := do
  let q ← r.createTextQuery text values params
  return (← r.backend.textRows { q with limit := some (.whole 1) }).head?

/-- Run a text that changes rows; the answer says how many. -/
def batchExecute (text : String) (values : List Value) (params : Entries) :
    Action (World σ) Value := do
  let affected ← r.backend.execute (← r.createTextQuery text values params)
  r.log .debug "query.batch" [("statement", .text text), ("affected", affected)]
  return affected

/-- The count text of a query text whose placeholders all survive; only values
bound by position need that. -/
def countTextFor (text : String) (values : List Value) : Except Failure String :=
  match countText text with
  | .error failure => .error failure
  | .ok count =>
      if !values.isEmpty && placeholders count != placeholders text then
        .error (.unsupportedQuery
          "positional placeholders outside the from clause cannot be auto counted" text)
      else .ok count

/-- The report of a count text that the backend could not answer. -/
def countFailure (count : String) (cause : Failure) : Failure :=
  .execution ("query can't be auto counted, query is: " ++ count)
    [("count_query", .text count)] (some cause)

/-- Count the rows of a query text by its count text. -/
def countByQuery (text : String) (values : List Value) (params : Entries) :
    Action (World σ) Int := do
  let count ← .ofExcept (countTextFor text values)
  let q ← r.createTextQuery count values params
  match ← (r.fetchTextScalar q).outcome with
  | .ok total => .ofExcept total.toCount
  | .error failure => do
      r.log .warning "query.count_failed"
        [("count_query", .text count), ("error", .text failure.shown)]
      .fail (countFailure count failure)

end Repository

theorem equalities_ok {names : List String} {values : List Value} {ps : List Predicate}
    (h : equalities names values = .ok ps) : ps.length = names.length := by
  unfold equalities at h
  split at h
  · simp at h
  · rename_i hl
    simp only [Except.ok.injEq] at h
    have hl : names.length = values.length := by simpa using hl
    simp [← h, hl]

end PagedQuery
