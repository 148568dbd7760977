import PagedQuery.Query.Structural
import PagedQuery.Relational.Condition
import PagedQuery.SortKey

/-!
# Select statements

A structural query becomes a statement: what it makes of a record, a condition,
an order and a slice.  Unknown properties are refused when the statement is
built, first those of the projection, then those of the predicates, then those
of the sorts, and then a slice that is no number of rows; values that cannot be
sent are refused when it is sent.

Main results:

- Theorem `Selection.send_eq_ok`: what is sent of a statement.
- Theorem `orderRecords_perm`: ordering neither loses nor repeats a record.
-/

namespace PagedQuery
namespace Relational

/-- A statement that selects records of one table, over the values `β` that columns
are compared with. -/
structure Selection (β : Type) where
  schema : Schema
  projection : Projection
  condition : Condition β
  order : List SortKey
  offset : Option Nat
  limit : Option Nat

/-- Check that properties exist, from left to right. -/
def checkProperties (s : Schema) : List String → Except Failure Unit
  | [] => .ok ()
  | name :: names =>
      match s.column name with
      | .ok _ => checkProperties s names
      | .error failure => .error failure

/-- The properties that a projection names. -/
def projectionNames : Projection → List String
  | .properties name names => name :: names
  | _ => []

namespace Selection

/-- The statement of a structural query. -/
def ofQuery (s : Schema) (q : Query) : Except Failure (Selection Value) :=
  match checkProperties s (projectionNames q.projection) with
  | .error failure => .error failure
  | .ok () =>
      match Condition.ofPredicates s q.predicates with
      | .error failure => .error failure
      | .ok conditions =>
          match checkProperties s (q.sorts.map (·.field)) with
          | .error failure => .error failure
          | .ok () =>
              match givenAmount Amount.truncated q.offset,
                givenAmount Amount.truncated q.limit with
              | .error failure, _ | _, .error failure => .error failure
              | .ok offset, .ok limit =>
                  .ok {
                    schema := s
                    projection := q.projection
                    condition := .foldConj conditions
                    order := q.sorts
                    offset := offset
                    limit := limit }

/-- The statement that counts what another one selects. -/
def counting {β : Type} (s : Selection β) : Selection β :=
  { s with projection := .count, order := [] }

end Selection

/-! ## Sending -/

/-- Check that a length can be sent. -/
def checkLength : Option Nat → Except Failure Unit
  | none => .ok ()
  | some n => if fitsInteger n then .ok () else .error .overflow

/-- A statement with its values sent, those of the condition before the lengths of the
slice. -/
def Selection.send (s : Selection Value) : Except Failure (Selection Cell) :=
  match s.condition.send with
  | .error failure => .error failure
  | .ok condition =>
      match checkLength s.limit, checkLength s.offset with
      | .error failure, _ | _, .error failure => .error failure
      | .ok (), .ok () =>
          .ok ⟨s.schema, s.projection, condition, s.order, s.offset, s.limit⟩

/-- What is sent has its values from the statement. -/
theorem Selection.send_eq_ok {s : Selection Value} {sent : Selection Cell}
    (h : s.send = .ok sent) : ∃ condition, s.condition.send = .ok condition ∧
      checkLength s.limit = .ok () ∧ checkLength s.offset = .ok () ∧
      sent = ⟨s.schema, s.projection, condition, s.order, s.offset, s.limit⟩ := by
  unfold Selection.send at h
  split at h
  · cases h
  · rename_i condition hcondition
    split at h
    · cases h
    · cases h
    · rename_i hlimit hoffset
      cases h
      exact ⟨condition, hcondition, hlimit, hoffset, rfl⟩

/-! ## Order -/

/-- Compare records by sort keys, the most significant first. -/
def compareRecords : List SortKey → Record → Record → Ordering
  | [], _, _ => .eq
  | key :: keys, a, b =>
      let o := (a.cell key.field).order (b.cell key.field)
      match (match key.direction with
        | .asc => o
        | .desc => o.swap) with
      | .eq => compareRecords keys a b
      | o => o

/-- Order records by sort keys; records that are equal to all of them keep the
order in which they come. -/
def orderRecords (keys : List SortKey) (records : List Record) : List Record :=
  records.mergeSort fun a b => compareRecords keys a b != .gt

/-! ## What is selected -/

/-- The named properties of a record. -/
def projectRecord (names : List String) (r : Record) : Value :=
  .tuple (names.map fun name => (r.cell name).toValue)

/-- What a statement selects: records, or rows made of them. -/
inductive Selected where
  | records (records : List Record)
  | rows (rows : List Value)

/-- What a statement selects of records that are met in some order: those on which the
condition is true, ordered and cut.  A count is one row, which the slice applies to as to
any other. -/
def Selection.select (s : Selection Cell) (met : List Record) : Selected :=
  let selected := met.filter s.condition.selects
  let cut := slice s.offset s.limit (orderRecords s.order selected)
  match s.projection with
  | .count => .rows (slice s.offset s.limit [.tuple [.int selected.length]])
  | .rows => .records cut
  | .properties name names => .rows (cut.map (projectRecord (name :: names)))

theorem orderRecords_perm (keys : List SortKey) (records : List Record) :
    (orderRecords keys records).Perm records :=
  List.mergeSort_perm records _

end Relational
end PagedQuery
