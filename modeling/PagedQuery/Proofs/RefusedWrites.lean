import PagedQuery.Collection.Backend
import PagedQuery.Proofs.NewObjects
import PagedQuery.Proofs.RefusedCalls

/-!
# Writes that are refused

Saving or deleting an object ends with a journal entry under its identifier.  The identifier
is looked up when the object has been written already.  Lists of rows know an identifying
property of every entity, and refuse an object before they write it.  A database does not
know one when the key of the entity has several properties, so what it refuses has been
written.

Main results:

- Theorem `WriteCall.perform_eq`: an object is written before its identifier is looked up.
- Theorem `Collection.write_refused`: over lists of rows, a refused call has written nothing.
- Theorem `write_refused_iff`: over a database, the calls that are refused, and what they
  have written.
-/

namespace PagedQuery

open PagedQuery.Action

/-! ## Calls that write an object -/

/-- A call that writes an object. -/
inductive WriteCall where
  | save
  | delete

namespace WriteCall

variable {σ ρ : Type}

/-- Make a call. -/
def perform (r : Repository σ ρ) (object : ρ) : WriteCall → Action (World σ) Unit
  | save => r.save object
  | delete => r.delete object

/-- What a call asks of the backend, with the object as it is written. -/
def write (b : Backend σ ρ) (entity : String) (object : ρ) : WriteCall → Action (World σ) ρ
  | save => b.save entity object
  | delete => do
      b.delete entity object
      return object

/-- The name of the journal entry of a call. -/
def event : WriteCall → String
  | save => "entity.saved"
  | delete => "entity.deleted"

/-- Note a call in the journal, under the identifier of the object. -/
def note (r : Repository σ ρ) (written : ρ) (call : WriteCall) : Action (World σ) Unit := do
  r.log .debug call.event [("entity_id", ← r.identifierOf written)]

/-- An object is written before its identifier is looked up. -/
theorem perform_eq (r : Repository σ ρ) (object : ρ) (call : WriteCall) :
    call.perform r object =
      (call.write r.backend r.entity object >>= fun written => call.note r written) := by
  cases call with
  | save => rfl
  | delete =>
      have hrun : ∀ w, (r.delete object).run w =
          ((delete.write r.backend r.entity object >>= fun written =>
            delete.note r written).run w) := by
        intro w
        simp only [Repository.delete, write, note, run_bind]
        rcases (r.backend.delete r.entity object).run w with ⟨⟨⟩ | ⟨⟩, w'⟩ <;> rfl
      exact congrArg Action.mk (funext hrun)

end WriteCall

/-! ## Lists of rows -/

namespace Collection

variable {entity : String} {object : Value} {w w' : World Store} {failure : Failure}

/-- Lists of rows refuse an object before they keep it. -/
theorem save_error (h : (Collection.save entity object).run w = (.error failure, w')) :
    w'.store.collections = w.store.collections := by
  simp only [Collection.save, note, idName, run_bind, run_change, run_state, run_pure] at h
  split at h
  · cases h
    rfl
  · cases h

/-- Lists of rows look for the row of an object before they remove it. -/
theorem delete_error (h : (Collection.delete entity object).run w = (.error failure, w')) :
    w'.store.collections = w.store.collections := by
  simp only [Collection.delete, note, idName, rowsOf, run_bind, run_change, run_state, run_pure,
    run_ofExcept] at h
  split at h
  · rename_i hrows
    split at h
    · cases h
    · cases h
      rw [← (Prod.mk.inj hrows).2]
      rfl
  · rename_i hrows
    cases h
    rw [← (Prod.mk.inj hrows).2]
    rfl

/-- Over lists of rows, a call that is refused leaves all rows as they are. -/
theorem write_refused (call : WriteCall) (entity : String) (object : Value) {w : World Store}
    (h : IsRefusal ((call.perform ⟨backend, entity⟩ object).run w).1) :
    ((call.perform ⟨backend, entity⟩ object).run w).2.store.collections =
      w.store.collections := by
  rw [call.perform_eq] at h ⊢
  rcases hwrite : (call.write backend entity object).run w with ⟨failure | written, w'⟩
  · rw [run_bind_error hwrite]
    cases call with
    | save => exact save_error hwrite
    | delete =>
        rcases hdelete : (Collection.delete entity object).run w with ⟨other | _, w''⟩
        · have hsame : w'' = w' :=
            congrArg Prod.snd ((run_bind_error hdelete).symm.trans hwrite)
          rw [← hsame]
          exact delete_error hdelete
        · have hok := (run_bind_ok hdelete).symm.trans hwrite
          cases hok
  · -- The identifying property is known, so the journal entry is made.
    rw [run_bind_ok hwrite] at h
    exact absurd h (not_isRefusal_ok ())

end Collection

/-! ## Databases -/

namespace Relational

/-! ### Failures of writing -/

variable {e : Engine} {t t' : Table}

/-- What writing an object can fail with: a value that cannot be sent or looked for, or a
refusal of the engine. -/
def IsWriteFailure (failure : Failure) : Prop :=
  failure = .mismatch ∨ failure = .overflow ∨ ∃ fault, failure = .engine fault

/-- A failure of writing reports no bad argument. -/
theorem IsWriteFailure.reported {failure : Failure} (h : IsWriteFailure failure)
    (message : String) : (reported message failure).isInvalidArgument = false := by
  rcases h with rfl | rfl | ⟨fault, rfl⟩ <;> rfl

/-- A value fails to be stored as writing fails. -/
theorem storeValue_error {value : Value} {failure : Failure}
    (h : storeValue value = .error failure) : IsWriteFailure failure := by
  unfold storeValue sendValue at h
  split at h
  case h_3 =>
    split at h
    · cases h
    · cases h
      exact .inr (.inl rfl)
  case h_7 =>
    cases h
    exact .inr (.inr ⟨_, rfl⟩)
  all_goals cases h

/-- Columns fail to be sent as one of their values does. -/
theorem sendColumns_error {value : Column → Value} {columns : List Column} {failure : Failure}
    (h : sendColumns value columns = .error failure) : IsWriteFailure failure := by
  induction columns with
  | nil => cases h
  | cons column columns ih =>
      unfold sendColumns at h
      split at h
      · rename_i hvalue
        cases h
        exact storeValue_error hvalue
      · split at h
        · rename_i hrest
          cases h
          exact ih hrest
        · cases h

/-- A key fails to be sent as one of its values does. -/
theorem sendKey_error {values : List Value} {failure : Failure}
    (h : sendKey values = .error failure) : IsWriteFailure failure := by
  induction values with
  | nil => cases h
  | cons value values ih =>
      unfold sendKey at h
      split at h
      · rename_i hvalue
        cases h
        exact storeValue_error hvalue
      · split at h
        · rename_i hrest
          cases h
          exact ih hrest
        · cases h

/-- What the engine gives fails with its refusal, as writing fails. -/
theorem ofEngine_error {α : Type} {answer : Except EngineFault α} {failure : Failure}
    (h : ofEngine answer = .error failure) : IsWriteFailure failure := by
  unfold ofEngine at h
  split at h
  · cases h
  · cases h
    exact .inr (.inr ⟨_, rfl⟩)

/-- A record is looked for in a table that exists, by a key that can be sent. -/
theorem findRecord_error {values : List Value} {failure : Failure}
    (h : findRecord e t values = .error failure) : IsWriteFailure failure := by
  unfold findRecord at h
  split at h
  · cases h
    exact .inr (.inr ⟨_, rfl⟩)
  · split at h
    · rename_i hkey
      cases h
      exact sendKey_error hkey
    · exact ofEngine_error h

/-- An object fails to be inserted as writing fails. -/
theorem insertObject_error {values : Entries} {failure : Failure}
    (h : insertObject e t values = .error failure) : IsWriteFailure failure := by
  unfold insertObject at h
  split at h
  · rename_i hfindable
    cases h
    unfold checkFindable at hfindable
    split at hfindable
    · cases hfindable
    · cases hfindable
      exact .inl rfl
  · split at h
    · cases h
      exact .inr (.inr ⟨_, rfl⟩)
    · split at h
      · rename_i hsent
        cases h
        exact sendColumns_error hsent
      · exact ofEngine_error (map_eq_error.1 h)

/-- Changes fail to be written as writing fails. -/
theorem updateRecord_error {stored changes : Entries} {failure : Failure}
    (h : updateRecord e t stored changes = .error failure) : IsWriteFailure failure := by
  unfold updateRecord at h
  split at h
  · cases h
  · simp only at h
    split at h
    · rename_i hsent
      cases h
      exact sendColumns_error hsent
    · split at h
      · rename_i hfound
        cases h
        exact findRecord_error hfound
      · cases h
        exact .inr (.inr ⟨_, rfl⟩)
      · exact ofEngine_error (map_eq_error.1 h)

/-- A record fails to be removed as writing fails. -/
theorem deleteRecord_error {stored : Entries} {failure : Failure}
    (h : deleteRecord e t stored = .error failure) : IsWriteFailure failure := by
  unfold deleteRecord at h
  split at h
  · rename_i hfound
    cases h
    exact findRecord_error hfound
  · cases h
  · exact ofEngine_error (map_eq_error.1 h)

/-- A database that is not asked any more fails as writing fails. -/
theorem ask_error {α : Type} {db : Database} {answer : Except Failure α} {failure : Failure}
    (hanswer : ∀ failure, answer = .error failure → IsWriteFailure failure)
    (h : db.ask answer = .error failure) : IsWriteFailure failure := by
  unfold Database.ask at h
  split at h
  · cases h
    exact .inr (.inr ⟨_, rfl⟩)
  · exact hanswer failure h

/-! ### The table after a write -/

/-- The table after a call has written an object of it, or why it cannot write it. -/
def tableAfter (db : Database) (t : Table) (x : Instance) : WriteCall → Except Failure Table
  | .save =>
      match x.link with
      | none => db.ask ((insertObject db.engine t x.values).map Prod.fst)
      | some l => db.ask (updateRecord db.engine t l.stored (x.changes l))
  | .delete =>
      match x.link with
      | none => .error (.engine .request)
      | some l => db.ask (deleteRecord db.engine t l.stored)

/-- An inserted object keeps the schema of the table. -/
theorem insertObject_schema {values : Entries} {r : Record}
    (h : insertObject e t values = .ok (t', r)) : t'.schema = t.schema := by
  unfold insertObject at h
  split at h
  · cases h
  · split at h
    · cases h
    · split at h
      · cases h
      · obtain ⟨put, -, hput⟩ := map_eq_ok h
        cases hput
        rfl

/-- Written changes keep the schema of the table. -/
theorem updateRecord_schema {stored changes : Entries}
    (h : updateRecord e t stored changes = .ok t') : t'.schema = t.schema := by
  unfold updateRecord at h
  split at h
  · cases h
    rfl
  · simp only at h
    split at h
    · cases h
    · split at h
      · cases h
      · cases h
      · obtain ⟨records, -, rfl⟩ := map_eq_ok h
        rfl

/-- A removed record keeps the schema of the table. -/
theorem deleteRecord_schema {stored : Entries}
    (h : deleteRecord e t stored = .ok t') : t'.schema = t.schema := by
  unfold deleteRecord at h
  split at h
  · cases h
  · cases h
    rfl
  · obtain ⟨records, -, rfl⟩ := map_eq_ok h
    rfl

/-- What the database is asked for successfully is the answer. -/
theorem ask_ok {α : Type} {db : Database} {answer : Except Failure α} {a : α}
    (h : db.ask answer = .ok a) : answer = .ok a := by
  unfold Database.ask at h
  split at h
  · cases h
  · exact h

/-- A call keeps the schema of the table. -/
theorem tableAfter_schema {db : Database} {x : Instance} {call : WriteCall}
    (h : tableAfter db t x call = .ok t') : t'.schema = t.schema := by
  cases call with
  | save =>
      simp only [tableAfter] at h
      split at h
      · obtain ⟨⟨inserted, r⟩, hinsert, rfl⟩ := map_eq_ok (ask_ok h)
        exact insertObject_schema hinsert
      · exact updateRecord_schema (ask_ok h)
  | delete =>
      simp only [tableAfter] at h
      split at h
      · cases h
      · exact deleteRecord_schema (ask_ok h)

/-! ### Runs -/

variable {x : Instance} {w : World Database}

/-- What the engine is asked for can be made into something before or afterwards. -/
theorem ask_map {α β : Type} (db : Database) (answer : Except Failure α) (f : α → β) :
    db.ask (answer.map f) = (db.ask answer).map f := by
  unfold Database.ask
  split <;> rfl

/-- A write ends as the table after it says: it succeeds, this table is there and no other one
changes, or it fails and reports no bad argument. -/
def EndsWith {α : Type} (db : Database) (ending : Except Failure α × World Database) :
    Except Failure Table → Prop
  | .ok t' => ∃ a w', ending = (.ok a, w') ∧
      ∀ other, w'.store.table? other = (db.setTable t').table? other
  | .error _ => ∃ failure w', ending = (.error failure, w') ∧ failure.isInvalidArgument = false

/-- What a write gives may be given up for something else. -/
theorem EndsWith.returning {α β : Type} {db : Database} {a : Action (World Database) α}
    {after : Except Failure Table} (h : EndsWith db (a.run w) after) (b : β) :
    EndsWith db ((a >>= fun _ => Pure.pure b).run w) after := by
  cases after with
  | ok t' =>
      obtain ⟨_, w', hrun, htables⟩ := h
      exact ⟨b, w', run_bind_ok hrun, htables⟩
  | error _ =>
      obtain ⟨failure, w', hrun, hvalid⟩ := h
      exact ⟨failure, w', run_bind_error hrun, hvalid⟩

/-- What is written to the database, and the table that follows from it being put there, is a
write that ends as this table says. -/
theorem flush_endsWith {α β : Type} (message : String) (write : Engine → Except Failure α)
    (table : α → Table) {put : α → Action (World Database) β} {after : Except Failure Table}
    (hafter : after = (write w.store.engine).map table)
    (hfails : ∀ failure, write w.store.engine = .error failure → IsWriteFailure failure)
    (hput : ∀ a, ∃ b w', (put a).run w = (.ok b, w') ∧
      ∀ other, w'.store.table? other = (w.store.setTable (table a)).table? other) :
    EndsWith w.store ((flush message write >>= put).run w) (w.store.ask after) := by
  rw [hafter, ask_map]
  cases hwrite : w.store.ask (write w.store.engine) with
  | ok a =>
      obtain ⟨b, w', hrun, htables⟩ := hput a
      exact ⟨b, w', (run_bind_ok (flush_ok message write hwrite)).trans hrun, htables⟩
  | error failure =>
      exact ⟨_, _, run_bind_error (flush_error message write hwrite),
        (ask_error hfails hwrite).reported message⟩

/-- How a write ends: it leaves the table as said and no other table changes, or it fails
and reports no bad argument. -/
theorem write_run (entity : String) (htable : w.store.table? x.schema.entity = some t)
    (call : WriteCall) :
    EndsWith w.store ((call.write backend entity x).run w) (tableAfter w.store t x call) := by
  have htableOf := tableOf_run htable
  have hheld : ∀ (t' : Table) (y : Instance) (other : String),
      ((w.store.setTable t').hold y).table? other = (w.store.setTable t').table? other :=
    fun _ _ other => Database.table?_hold _ _ other
  cases call with
  | save =>
      change EndsWith w.store ((Relational.save entity x).run w) _
      rw [Relational.save, run_bind_ok htableOf, tableAfter]
      cases x.link with
      | none =>
          exact flush_endsWith _ _ Prod.fst rfl (fun _ => insertObject_error)
            fun _ => ⟨_, _, rfl, hheld _ _⟩
      | some l =>
          exact flush_endsWith _ _ id (congrFun Except.map_id _).symm
            (fun _ => updateRecord_error) fun _ => ⟨_, _, rfl, hheld _ _⟩
  | delete =>
      apply EndsWith.returning
      change EndsWith w.store ((Relational.delete entity x).run w) _
      rw [Relational.delete, run_bind_ok htableOf, tableAfter]
      cases x.link with
      | none => exact ⟨_, _, rfl, rfl⟩
      | some l =>
          exact flush_endsWith _ _ id (congrFun Except.map_id _).symm
            (fun _ => deleteRecord_error) fun _ => ⟨_, _, rfl, hheld _ _⟩

/-- A write that succeeds leaves the table as said, and no other table changes. -/
theorem write_ok (entity : String) (htable : w.store.table? x.schema.entity = some t)
    {call : WriteCall} (h : tableAfter w.store t x call = .ok t') :
    ∃ written w', (call.write backend entity x).run w = (.ok written, w') ∧
      ∀ other, w'.store.table? other = (w.store.setTable t').table? other := by
  have hrun := write_run entity htable call
  rwa [h] at hrun

/-- A write that fails reports no bad argument. -/
theorem write_error (entity : String) (htable : w.store.table? x.schema.entity = some t)
    {call : WriteCall} {failure : Failure} (h : tableAfter w.store t x call = .error failure) :
    ∃ failure' w', (call.write backend entity x).run w = (.error failure', w') ∧
      failure'.isInvalidArgument = false := by
  have hrun := write_run entity htable call
  rwa [h] at hrun

/-- A write to a table that is not known reports no bad argument. -/
theorem write_unknown (entity : String) (htable : w.store.table? x.schema.entity = none)
    (call : WriteCall) :
    ∃ failure w', (call.write backend entity x).run w = (.error failure, w') ∧
      failure.isInvalidArgument = false := by
  have htableOf : (tableOf x.schema.entity).run w =
      (.error (.missing (.text x.schema.entity)), w) := by
    simp [tableOf, run_bind, Database.table, htable]
  cases call with
  | save => exact ⟨_, _, run_bind_error htableOf, rfl⟩
  | delete => exact ⟨_, _, run_bind_error (run_bind_error htableOf), rfl⟩

/-- The identifying property of an entity is refused when its key is not a single
property. -/
theorem idName_failsIff (s : Schema) : FailsIff s.idName (∀ name, s.key ≠ [name]) := by
  unfold Schema.idName
  split
  · rename_i name hkey
    exact ⟨fun hbad => absurd hkey (hbad name), fun _ => ⟨name, rfl⟩⟩
  · rename_i hkey
    exact ⟨fun _ => ⟨_, rfl, rfl⟩, fun hgood => absurd hkey hgood⟩

/-- The entity is known, and its key is not a single property. -/
def HasCompositeKey (db : Database) (entity : String) : Prop :=
  ∃ u, db.table? entity = some u ∧ ∀ name, u.schema.key ≠ [name]

/-- The journal entry of a call is refused when the key of the entity is not a single
property, and it leaves the database as it is. -/
theorem note_isRefusal (entity : String) (y : Instance) (call : WriteCall)
    (w : World Database) :
    (IsRefusal ((call.note ⟨backend, entity⟩ y).run w).1 ↔ HasCompositeKey w.store entity) ∧
      ((call.note ⟨backend, entity⟩ y).run w).2.store = w.store := by
  cases htable : w.store.table? entity with
  | none =>
      have hnote : (call.note ⟨backend, entity⟩ y).run w =
          (.error (.missing (.text entity)), w) := by
        have htableOf : (tableOf entity).run w = (.error (.missing (.text entity)), w) := by
          simp [tableOf, run_bind, Database.table, htable]
        exact run_bind_error (run_bind_error (run_bind_error htableOf))
      rw [hnote]
      refine ⟨iff_of_false (by simp [Failure.isInvalidArgument]) ?_, rfl⟩
      rintro ⟨u, hu, -⟩
      rw [htable] at hu
      cases hu
  | some u =>
      have hcomposite : HasCompositeKey w.store entity ↔ IsRefusal u.schema.idName := by
        rw [(idName_failsIff u.schema).isRefusal_iff]
        simp [HasCompositeKey, htable]
      have hidentifier := identifierOf_run htable y
      rw [hcomposite]
      cases hid : u.schema.idName with
      | error failure =>
          rw [hid] at hidentifier
          have hnote : (call.note ⟨backend, entity⟩ y).run w = (.error failure, w) :=
            run_bind_error hidentifier
          rw [hnote]
          exact ⟨isRefusal_error.trans isRefusal_error.symm, rfl⟩
      | ok name =>
          rw [hid] at hidentifier
          have hnote := run_bind_ok hidentifier (f := fun identifier =>
            Repository.log ⟨backend, entity⟩ .debug call.event [("entity_id", identifier)])
          change (call.note ⟨backend, entity⟩ y).run w = _ at hnote
          rw [hnote]
          exact ⟨iff_of_false (not_isRefusal_ok ()) (not_isRefusal_ok name), rfl⟩

/-- A call whose write fails is not refused. -/
theorem perform_error {entity : String} {call : WriteCall} {failure : Failure}
    {w' : World Database} (hwrite : (call.write backend entity x).run w = (.error failure, w'))
    (hvalid : failure.isInvalidArgument = false) :
    ¬IsRefusal ((call.perform ⟨backend, entity⟩ x).run w).1 := by
  rw [call.perform_eq, run_bind_error hwrite, isRefusal_error, hvalid]
  exact Bool.false_ne_true

/-- Writing an object changes no key. -/
theorem hasCompositeKey_setTable (entity : String)
    (htable : w.store.table? t.schema.entity = some t) (hschema : t'.schema = t.schema) :
    HasCompositeKey (w.store.setTable t') entity ↔ HasCompositeKey w.store entity := by
  obtain ⟨hself, hothers⟩ := table?_setTable_self htable hschema
  by_cases hentity : entity = t.schema.entity
  · simp [HasCompositeKey, hentity, hself, htable, hschema]
  · simp [HasCompositeKey, hothers entity hentity]

/-- What a call does whose object can be written: it leaves the table that was written, and
it is refused when the key of its entity is not a single property. -/
theorem perform_written (entity : String) (htable : w.store.table? x.schema.entity = some t)
    {call : WriteCall} (h : tableAfter w.store t x call = .ok t') :
    (IsRefusal ((call.perform ⟨backend, entity⟩ x).run w).1 ↔
      HasCompositeKey w.store entity) ∧
    ∀ other, ((call.perform ⟨backend, entity⟩ x).run w).2.store.table? other =
      (w.store.setTable t').table? other := by
  have hentity : t.schema.entity = x.schema.entity := by
    simpa using List.find?_some htable
  have hown : w.store.table? t.schema.entity = some t := hentity ▸ htable
  obtain ⟨written, w', hwrite, htables⟩ := write_ok entity htable h
  obtain ⟨hiff, hstore⟩ := note_isRefusal entity written call w'
  have hkey : HasCompositeKey w'.store entity ↔ HasCompositeKey w.store entity := by
    rw [← hasCompositeKey_setTable entity hown (tableAfter_schema h)]
    simp only [HasCompositeKey, htables]
  rw [call.perform_eq, run_bind_ok hwrite]
  refine ⟨hiff.trans hkey, ?_⟩
  intro other
  rw [hstore, htables]

/-- A call that writes an object is refused exactly when the object can be written and the
key of the entity is not a single property, and then it has been written: all tables are as
before exactly when the write has changed nothing about the table of the object. -/
theorem write_refused_iff (call : WriteCall) (entity : String) (x : Instance)
    (w : World Database) :
    (IsRefusal ((call.perform ⟨backend, entity⟩ x).run w).1 ↔
      HasCompositeKey w.store entity ∧
        ∃ t t', w.store.table? x.schema.entity = some t ∧
          tableAfter w.store t x call = .ok t') ∧
    ∀ t t', w.store.table? x.schema.entity = some t → tableAfter w.store t x call = .ok t' →
      ((call.perform ⟨backend, entity⟩ x).run w).2.store.table? x.schema.entity = some t' ∧
      ((∀ other, ((call.perform ⟨backend, entity⟩ x).run w).2.store.table? other =
        w.store.table? other) ↔ t' = t) := by
  constructor
  · cases htable : w.store.table? x.schema.entity with
    | none =>
        obtain ⟨failure, w', hwrite, hvalid⟩ := write_unknown entity htable call
        simp [perform_error hwrite hvalid]
    | some t =>
        cases hafter : tableAfter w.store t x call with
        | error failure =>
            obtain ⟨failure', w', hwrite, hvalid⟩ := write_error entity htable hafter
            simp [perform_error hwrite hvalid, hafter]
        | ok t' =>
            rw [(perform_written entity htable hafter).1]
            simp [hafter]
  · intro t t' htable hafter
    have htables := (perform_written entity htable hafter).2
    have hentity : t.schema.entity = x.schema.entity := by
      simpa using List.find?_some htable
    obtain ⟨hself, hothers⟩ :=
      table?_setTable_self (hentity ▸ htable) (tableAfter_schema hafter)
    rw [hentity] at hself hothers
    have hafterwards : ((call.perform ⟨backend, entity⟩ x).run w).2.store.table?
        x.schema.entity = some t' := by
      rw [htables, hself]
    refine ⟨hafterwards, ?_, ?_⟩
    · intro hsame
      have hrows := hsame x.schema.entity
      rw [hafterwards, htable] at hrows
      exact Option.some.inj hrows
    · rintro rfl other
      by_cases hother : other = x.schema.entity
      · rw [hother, hafterwards, htable]
      · rw [htables, hothers other hother]

end Relational

/-! ## Both backends -/

/-- What is written by a call that is refused.  Over lists of rows it is nothing.  Over
databases a call is refused exactly when its object can be written and the key of its
entity is not a single property; the object has been written then, so that all tables are
as before exactly when the write has changed nothing. -/
theorem refused_write (call : WriteCall) (entity : String) :
    (∀ (object : Value) (w : World Collection.Store),
      IsRefusal ((call.perform ⟨Collection.backend, entity⟩ object).run w).1 →
        ((call.perform ⟨Collection.backend, entity⟩ object).run w).2.store.collections =
          w.store.collections) ∧
    ∀ (x : Relational.Instance) (w : World Relational.Database),
      (IsRefusal ((call.perform ⟨Relational.backend, entity⟩ x).run w).1 ↔
        Relational.HasCompositeKey w.store entity ∧
          ∃ t t', w.store.table? x.schema.entity = some t ∧
            Relational.tableAfter w.store t x call = .ok t') ∧
      ∀ t t', w.store.table? x.schema.entity = some t →
        Relational.tableAfter w.store t x call = .ok t' →
          ((call.perform ⟨Relational.backend, entity⟩ x).run w).2.store.table?
            x.schema.entity = some t' ∧
          ((∀ other, ((call.perform ⟨Relational.backend, entity⟩ x).run w).2.store.table?
            other = w.store.table? other) ↔ t' = t) :=
  ⟨fun object _ h => Collection.write_refused call entity object h,
    Relational.write_refused_iff call entity⟩

namespace Relational

/-- The record of a user's membership in a group. -/
def membershipRecord : Record := [("user_id", .integer 1), ("group_id", .integer 2)]

/-- The table of memberships with one record. -/
def memberships : Table := ⟨membershipSchema, [membershipRecord]⟩

/-- A database with one membership. -/
def membershipWorld : World Database := ⟨{ tables := [memberships] }, []⟩

/-- The membership as it was read. -/
def membership : Instance := .ofRecord membershipSchema membershipRecord 0

/-- Memberships have a key of two properties. -/
theorem hasCompositeKey_membership : HasCompositeKey membershipWorld.store "Membership" := by
  refine ⟨memberships, rfl, ?_⟩
  intro name hkey
  cases hkey

/-- An object without an identifier is refused by a list of rows, which stays empty; and a
membership that was not changed is refused by its table, which stays as it is. -/
theorem refused_write_unchanged :
    ((WriteCall.save.perform ⟨Collection.backend, "users"⟩ (.mapping [])).run
        { store := { collections := [("users", [])] } }).2.store.collections =
          [("users", [])] ∧
      IsRefusal ((WriteCall.save.perform ⟨backend, "Membership"⟩ membership).run
        membershipWorld).1 ∧
      ∀ other, ((WriteCall.save.perform ⟨backend, "Membership"⟩ membership).run
        membershipWorld).2.store.table? other = membershipWorld.store.table? other := by
  obtain ⟨hlists, htables⟩ := refused_write .save "Membership"
  obtain ⟨hiff, hsame⟩ := htables membership membershipWorld
  refine ⟨(refused_write .save "users").1 (.mapping []) _ ⟨_, rfl, rfl⟩, ?_, ?_⟩
  · exact hiff.2 ⟨hasCompositeKey_membership, memberships, memberships, rfl, rfl⟩
  · exact (hsame memberships memberships rfl rfl).2.2 rfl

/-- The database after its membership was removed. -/
def membershipRemoved : World Database :=
  ⟨{ tables := [⟨membershipSchema, []⟩], held := [membership.detached], nextLabel := 1 }, []⟩

/-- Deleting the membership is refused, but no membership is found afterwards. -/
theorem delete_membership_removed :
    ((Repository.find ⟨backend, "Membership"⟩ []).run membershipWorld).1 =
        .ok [membership.view] ∧
      IsRefusal ((Repository.delete ⟨backend, "Membership"⟩ membership).run
        membershipWorld).1 ∧
      ((Repository.find ⟨backend, "Membership"⟩ []).run
        ((Repository.delete ⟨backend, "Membership"⟩ membership).run
          membershipWorld).2).1 = .ok [] := by
  have hremoved : ((Repository.delete ⟨backend, "Membership"⟩ membership).run
      membershipWorld).2 = membershipRemoved := rfl
  rw [hremoved]
  exact ⟨by cbv, ⟨_, rfl, rfl⟩, by cbv⟩

end Relational

end PagedQuery
