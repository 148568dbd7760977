import PagedQuery.Relational.Engine
import PagedQuery.Relational.Extent
import PagedQuery.Relational.Path

/-!
# An embedded engine

The engine that runs inside the program, and that a database has unless it is given
another one.  It refuses statements that are too large for it, and gives up a search for
too long a text; records are met along the path that it takes for the cheapest one.

Main results:

- Definition `Engine.embedded`: it answers as an engine must.
-/

namespace PagedQuery
namespace Relational

namespace Embedded

/-! ## Selecting -/

/-- The number of columns that a statement may select, and of those that it may sort
by. -/
def columnLimit : Nat := 2000

/-- The number of values that may be sent with a statement. -/
def valueLimit : Nat := 32766

/-- The number of values that are sent with a statement. -/
def valueCount (s : Selection Value) : Nat :=
  s.condition.operandCount + s.limit.toList.length + s.offset.toList.length

/-- A statement is small enough to be run. -/
def isReadable (s : Selection Value) : Bool :=
  s.condition.isReadable && (projectionNames s.projection).length ≤ columnLimit &&
    s.order.length ≤ columnLimit && valueCount s ≤ valueLimit

/-- Read a statement. -/
def read (s : Selection Value) : Except EngineFault Unit :=
  if isReadable s then .ok () else .error .operation

/-- Answer a statement, unless the test of a record comes to too long a search. -/
def answer (s : Selection Cell) (records : List Record) : Except EngineFault Selected :=
  if s.limit != some 0 && records.any s.condition.overruns then .error .operation
  else .ok (s.select (scan s.schema s.order s.condition records))

theorem answer_selects {s : Selection Cell} {records : List Record} {selected : Selected}
    (h : answer s records = .ok selected) :
    ∃ met : List Record, met.Perm records ∧ selected = s.select met := by
  unfold answer at h
  split at h
  · cases h
  · cases h
    exact ⟨_, scan_perm _ _ _ _, rfl⟩

theorem isReadable_counting {s : Selection Value} (h : isReadable s = true) :
    isReadable s.counting = true := by
  simp only [isReadable, Bool.and_eq_true, decide_eq_true_eq] at h ⊢
  exact ⟨⟨⟨h.1.1.1, Nat.zero_le _⟩, Nat.zero_le _⟩, h.2⟩

/-! ## Storing -/

/-- The whole-number keys of a table with a single key. -/
def integerKeys (t : Table) : List Int :=
  t.records.filterMap fun r =>
    match t.keyOf r with
    | [.integer n] => some n
    | _ => none

/-- The key that follows all keys of a table with a single whole-number key; the
first one is 1. -/
def nextKey (t : Table) : Int :=
  match integerKeys t with
  | [] => 1
  | n :: ns => ns.foldl max n + 1

/-- A new record with the next key where a single whole-number key is missing. -/
def withKey (t : Table) (r : Record) : Record :=
  match t.schema.hasIntegerKey, t.schema.key, t.keyOf r with
  | true, [name], [.null] => putEntry name (.integer (nextKey t)) r
  | _, _, _ => r

/-- Put a new record into a table. -/
def insert (t : Table) (r : Record) : Except EngineFault (List Record × Record) :=
  let r := withKey t r
  if t.admits r && !t.hasKey (t.keyOf r) then .ok ((t.insert r).records, r)
  else .error .integrity

/-- Write the second record in the place of the first one. -/
def update (t : Table) (old r : Record) : Except EngineFault (List Record) :=
  let others := t.erase (t.keyOf old)
  if t.admits r && !others.hasKey (t.keyOf r) then .ok (t.replace (t.keyOf old) r).records
  else .error .integrity

/-- A record that has a key keeps it. -/
theorem withKey_of_admits {t : Table} {r : Record} (h : t.admits r = true) :
    withKey t r = r := by
  unfold withKey
  split
  · rename_i hnull
    simp [Table.admits, hnull] at h
  · rfl

end Embedded

/-- The embedded engine. -/
def Engine.embedded : Engine where
  read := Embedded.read
  answer := Embedded.answer
  find t key := .ok (t.records.find? (hasSentKey t.schema key))
  insert := Embedded.insert
  update := Embedded.update
  remove t r := .ok (t.erase (t.keyOf r)).records
  answer_selects := Embedded.answer_selects
  counting_taken := by
    intro s sent records selected _ _ hread hanswer _
    constructor
    · unfold Embedded.read at hread ⊢
      split at hread
      · rename_i hreadable
        exact if_pos (Embedded.isReadable_counting hreadable)
      · cases hread
    · unfold Embedded.answer at hanswer
      split at hanswer
      · cases hanswer
      · rename_i htested
        exact ⟨_, if_neg htested⟩
  insert_taken := by
    intro t r hadmits htaken
    simp only [Embedded.insert, Embedded.withKey_of_admits hadmits, htaken, Bool.not_true,
      Bool.and_false, Bool.false_eq_true, if_false]
  insert_free := by
    intro t r hadmits hfree
    obtain ⟨before, after, hrecords, hinsert⟩ := t.insert_split r
    refine ⟨before, after, hrecords, ?_⟩
    simp only [Embedded.insert, Embedded.withKey_of_admits hadmits, hadmits, hfree,
      Bool.not_false, Bool.and_true, if_true, hinsert]

end Relational
end PagedQuery
