import PagedQuery.Collection.Sorting
import PagedQuery.Predicate.Evaluation
import PagedQuery.Query.Text

/-!
# Rows kept in lists

A store keeps the rows of each entity in a list, knows which property
identifies them, and answers query texts by responders.  It records every
execution.  Objects that are put into a store get labels by which they are known
wherever they stand.

Main results:

- Theorem `matching_ok_sublist`: the matching rows are some of the rows, in
  their order.
- Theorem `rows_setRows_self`: rows that were put are found again.
-/

namespace PagedQuery
namespace Collection

/-- What was executed. -/
inductive ExecutionKind where
  | structured
  | text
  | update
  | get
  | save
  | delete
  deriving DecidableEq, Repr

/-- The written name of a kind of execution. -/
def ExecutionKind.name : ExecutionKind → String
  | structured => "structured"
  | text => "text"
  | update => "update"
  | get => "get"
  | save => "save"
  | delete => "delete"

/-- A record of one execution: on which entity or text, with which
projection. -/
structure Execution where
  kind : ExecutionKind
  target : String
  projection : Projection := .rows
  deriving DecidableEq, Repr

/-- How a query text is answered: always alike, or by the query itself. -/
inductive Responder where
  | fixed (answer : Value)
  | computed (answer : TextQuery → Except Failure Value)

/-- Rows of entities, in lists. -/
structure Store where
  collections : List (String × List Value) := []
  idNames : List (String × String) := []
  responders : List (String × Responder) := []
  executed : List Execution := []
  /-- The number of queries made so far. -/
  created : Nat := 0
  /-- The label that the next object gets. -/
  nextLabel : Nat := 0

namespace Store

/-- The rows of an entity, if it is known. -/
def rows? (s : Store) (entity : String) : Option (List Value) := s.collections.lookup entity

/-- Put the rows of an entity. -/
def setRows (s : Store) (entity : String) (rows : List Value) : Store :=
  { s with collections := putEntry entity rows s.collections }

/-- Rows with labels of their own, the first one with a given label. -/
def labelRows (label : Nat) : List Value → List Value
  | [] => []
  | row :: rows => row.labelled label :: labelRows (label + 1) rows

/-- Put further rows behind those of an entity. -/
def addAll (s : Store) (entity : String) (rows : List Value) : Store :=
  { s.setRows entity ((s.rows? entity).getD [] ++ labelRows s.nextLabel rows) with
      nextLabel := s.nextLabel + rows.length }

/-- Answer a query text by a responder from now on. -/
def register (s : Store) (text : String) (responder : Responder) : Store :=
  { s with responders := putEntry text responder s.responders }

/-- Record an execution. -/
def note (s : Store) (e : Execution) : Store := { s with executed := s.executed ++ [e] }

/-- Forget what was executed and made. -/
def reset (s : Store) : Store := { s with executed := [], created := 0 }

/-- The property that identifies the rows of an entity. -/
def idName (s : Store) (entity : String) : String := (s.idNames.lookup entity).getD "id"

/-- The report of an entity that is not known. -/
def unknownEntity (entity : String) : Failure :=
  .execution ("unknown entity " ++ Text.quoted entity) [] (some (.missing (.text entity)))

/-- The rows of an entity, which must be known. -/
def rows (s : Store) (entity : String) : Except Failure (List Value) :=
  match s.rows? entity with
  | some rows => .ok rows
  | none => .error (unknownEntity entity)

/-- The responder of a query text, which must be registered. -/
def responder (s : Store) (text : String) : Except Failure Responder :=
  match s.responders.lookup text with
  | some responder => .ok responder
  | none =>
      .error (.execution ("no responder registered for query: " ++ text) []
        (some (.missing (.text text))))

@[simp]
theorem rows_setRows_self (s : Store) (entity : String) (rows : List Value) :
    (s.setRows entity rows).rows? entity = some rows :=
  lookup_putEntry_self entity rows s.collections

/-- Putting rows leaves those of other entities alone. -/
theorem rows_setRows (s : Store) {entity other : String} (hne : other ≠ entity)
    (rows : List Value) : (s.setRows entity rows).rows? other = s.rows? other :=
  lookup_putEntry hne rows s.collections

end Store

/-! ## Answering structural queries -/

/-- The rows that meet all predicates, in their order. -/
def matching (predicates : List Predicate) : List Value → Except Failure (List Value)
  | [] => .ok []
  | row :: rows =>
      match Predicate.holdsAll predicates row with
      | .error failure => .error failure
      | .ok keep =>
          match matching predicates rows with
          | .error failure => .error failure
          | .ok kept => .ok (if keep then row :: kept else kept)

/-- The named properties of a row. -/
def project (names : List String) (row : Value) : Value := .tuple (names.map row.property)

/-- Answer a structural query on the rows of its entity.  A count neither sorts
nor slices. -/
def answer (q : Query) (rows : List Value) : Except Failure (List Value) :=
  match matching q.predicates rows with
  | .error failure => .error failure
  | .ok kept =>
      match q.projection with
      | .count => .ok [.tuple [.int kept.length]]
      | .rows => (sortRows q.sorts kept).bind (cutRows q.offset q.limit)
      | .properties name names =>
          ((sortRows q.sorts kept).bind (cutRows q.offset q.limit)).map fun cut =>
            cut.map (project (name :: names))

/-! ## Single objects -/

/-- The position of the first row with an identifier. -/
def position? (name : String) (identifier : Value) (rows : List Value) : Option Nat :=
  rows.findIdx? fun row => (row.property name).agree identifier

/-- The rows with an object kept: the first row with its identifier replaced,
or the object behind all rows. -/
def keep (name : String) (object : Value) (rows : List Value) : List Value :=
  match position? name (object.property name) rows with
  | some i => rows.set i object
  | none => rows ++ [object]

theorem matching_ok_sublist {predicates : List Predicate} {rows kept : List Value}
    (h : matching predicates rows = .ok kept) : kept.Sublist rows := by
  induction rows generalizing kept with
  | nil =>
      simp only [matching, Except.ok.injEq] at h
      subst h
      exact List.Sublist.refl _
  | cons row rows ih =>
      simp only [matching] at h
      split at h
      · simp at h
      · split at h
        · simp at h
        · rename_i rest hrest
          simp only [Except.ok.injEq] at h
          subst h
          split
          · exact (ih hrest).cons_cons row
          · exact (ih hrest).cons row

end Collection
end PagedQuery
