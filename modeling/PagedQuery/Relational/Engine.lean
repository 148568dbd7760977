import PagedQuery.Relational.Selection

/-!
# Engines

An engine keeps the records of tables.  It reads a statement before any value is sent,
and answers it once the values are there; it may refuse to do either, for reasons of its
own.  What is known of every engine is what the language of its statements says: which
records a statement selects, in which order they are ordered and how they are cut, and
that no two records of a table have the same key.  In which order records are met is not
known.

Main results:

- Theorem `Selection.run_refused`: a statement that the engine does not take fails in it.
-/

namespace PagedQuery
namespace Relational

/-- An engine, by what it answers, with what its answers mean. -/
structure Engine where
  /-- Read a statement. -/
  read : Selection Value → Except EngineFault Unit
  /-- Answer a statement from the records of its table. -/
  answer : Selection Cell → List Record → Except EngineFault Selected
  /-- Find the record of a table with a key. -/
  find : Table → List Cell → Except EngineFault (Option Record)
  /-- Put a new record into a table: the records of the table with it, and the record as
  it was put. -/
  insert : Table → Record → Except EngineFault (List Record × Record)
  /-- Write the second record in the place of the first one. -/
  update : Table → Record → Record → Except EngineFault (List Record)
  /-- Take a record out of a table. -/
  remove : Table → Record → Except EngineFault (List Record)
  /-- The answer is what the statement selects of all records, met in some order. -/
  answer_selects : ∀ {s : Selection Cell} {records : List Record} {selected : Selected},
    answer s records = .ok selected →
      ∃ met : List Record, met.Perm records ∧ selected = s.select met
  /-- A statement without a slice that is taken is also taken when it counts. -/
  counting_taken : ∀ {s : Selection Value} {sent : Selection Cell} {records : List Record}
    {selected : Selected}, s.offset = none → s.limit = none → read s = .ok () →
      answer sent records = .ok selected → s.send = .ok sent →
        read s.counting = .ok () ∧ ∃ counted, answer sent.counting records = .ok counted
  /-- A record with the key of another one breaks a constraint. -/
  insert_taken : ∀ {t : Table} {r : Record}, t.admits r = true →
    t.hasKey (t.keyOf r) = true → insert t r = .error .integrity
  /-- Any other record that has what the table requires is put among the records. -/
  insert_free : ∀ {t : Table} {r : Record}, t.admits r = true →
    t.hasKey (t.keyOf r) = false → ∃ before after : List Record,
      t.records = before ++ after ∧ insert t r = .ok (before ++ r :: after, r)

namespace Engine

variable (e : Engine)

/-- The engine takes a statement on given records: it reads it, and answers it once its
values are sent. -/
def Takes (s : Selection Value) (records : List Record) : Prop :=
  e.read s = .ok () ∧
    ∀ sent, s.send = .ok sent → ∃ selected, e.answer sent records = .ok selected

/-- The engine takes the statement of a query on a table. -/
def TakesQuery (t : Table) (q : Query) : Prop :=
  ∀ s, Selection.ofQuery t.schema q = .ok s → e.Takes s t.records

end Engine

/-- What an engine gives, its refusals as failures. -/
def ofEngine {α : Type} : Except EngineFault α → Except Failure α
  | .ok a => .ok a
  | .error fault => .error (.engine fault)

namespace Selection

/-- Run a statement on records. -/
def run (e : Engine) (s : Selection Value) (records : List Record) : Except Failure Selected :=
  match e.read s with
  | .error fault => .error (.engine fault)
  | .ok () =>
      match s.send with
      | .error failure => .error failure
      | .ok sent => ofEngine (e.answer sent records)

variable {e : Engine} {s : Selection Value} {sent : Selection Cell} {records : List Record}

/-- A statement that selects something was read, sent and answered. -/
theorem run_eq_ok {selected : Selected} (h : s.run e records = .ok selected) :
    ∃ sent, e.read s = .ok () ∧ s.send = .ok sent ∧ e.answer sent records = .ok selected := by
  unfold run at h
  split at h
  · cases h
  · rename_i hread
    split at h
    · cases h
    · rename_i sent hsend
      refine ⟨sent, hread, hsend, ?_⟩
      cases hanswer : e.answer sent records with
      | error fault =>
          rw [hanswer] at h
          cases h
      | ok found =>
          rw [hanswer] at h
          exact congrArg Except.ok (Except.ok.inj h)

/-- A statement that is taken selects by its condition. -/
theorem run_taken (hsend : s.send = .ok sent) (htaken : e.Takes s records) :
    ∃ met : List Record, met.Perm records ∧ s.run e records = .ok (sent.select met) := by
  obtain ⟨hread, hanswer⟩ := htaken
  obtain ⟨selected, hselected⟩ := hanswer sent hsend
  obtain ⟨met, hperm, rfl⟩ := e.answer_selects hselected
  exact ⟨met, hperm, by simp only [run, hread, hsend, hselected, ofEngine]⟩

/-- A statement that can be sent but is not taken fails in the engine. -/
theorem run_refused (hsend : s.send = .ok sent) (hrefused : ¬e.Takes s records) :
    ∃ fault, s.run e records = .error (.engine fault) := by
  cases hread : e.read s with
  | error fault => exact ⟨fault, by simp only [run, hread]⟩
  | ok _ =>
      cases hanswer : e.answer sent records with
      | error fault => exact ⟨fault, by simp only [run, hread, hsend, hanswer, ofEngine]⟩
      | ok selected =>
          refine absurd ⟨hread, ?_⟩ hrefused
          intro other hother
          rw [hsend, Except.ok.injEq] at hother
          exact ⟨selected, hother ▸ hanswer⟩

end Selection

end Relational
end PagedQuery
