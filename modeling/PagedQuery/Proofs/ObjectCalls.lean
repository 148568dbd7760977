import PagedQuery.Proofs.KeyedRows
import PagedQuery.Proofs.Matching

/-!
# Objects kept by their identifiers

A list of rows serves as a map from identifiers to objects that keeps the order in which
identifiers came.  Getting, keeping and removing objects, one after another, leaves each
row an identifier of its own, and what is got is what the calls before have left.

Main results:

- Theorem `perform_step`: what one call does to the rows.
- Theorem `CallStep.keyed` and Theorem `CallStep.rowUnder`: a call leaves rows with
  identifiers of their own, and changes what stands under the identifier it names.
- Theorem `performAll_refines`: a run of calls refines a map in order of arrival.
-/

namespace PagedQuery

/-! ## Calls -/

/-- A call that names a single object. -/
inductive ObjectCall (ρ : Type) where
  | get (identifier : Value)
  | load (identifier : Value)
  | save (object : ρ)
  | delete (object : ρ)
  | deleteById (identifier : Value)

namespace ObjectCall

variable {σ ρ : Type}

/-- Make a call; the answer is the object that was asked for, if any. -/
def perform (r : Repository σ ρ) : ObjectCall ρ → Action (World σ) (Option ρ)
  | get identifier => r.get identifier
  | load identifier => do return some (← r.load identifier)
  | save object => do r.save object; return none
  | delete object => do r.delete object; return none
  | deleteById identifier => do r.deleteById identifier; return none

/-- Make calls one after another, whatever becomes of each. -/
def performAll (r : Repository σ ρ) (calls : List (ObjectCall ρ)) (w : World σ) : World σ :=
  calls.foldl (fun w call => ((call.perform r).run w).2) w

/-- The identifier that a call names. -/
def identifier (name : String) : ObjectCall Value → Value
  | get k | load k | deleteById k => k
  | save object | delete object => object.property name

/-- The identifier that a call names is equal to itself, and names nothing twice. -/
def IsProper (name : String) (call : ObjectCall Value) : Prop :=
  (call.identifier name).IsRegular ∧
    (call.identifier name).agree (call.identifier name) = true

/-- What a call leaves under an identifier: keeping an object under it puts the object
there, removing it takes it away, and every other call leaves what was there. -/
def leaves (name : String) (k : Value) (call : ObjectCall Value) (before : Option Value) :
    Option Value :=
  match call with
  | get _ | load _ => before
  | save object =>
      if !(object.property name).isNull && (object.property name).agree k then some object
      else before
  | delete object => if (object.property name).agree k then none else before
  | deleteById other => if other.agree k then none else before

/-- What calls leave under an identifier, one after another. -/
def leftBy (name : String) (k : Value) (calls : List (ObjectCall Value))
    (initial : Option Value) : Option Value :=
  calls.foldl (fun before call => call.leaves name k before) initial

end ObjectCall

namespace Collection

open Repository ObjectCall

/-! ## What one call does -/

/-- What a call does to the rows of an entity: the rows before it, its answer, the rows
after it, and the kinds of executions that it records. -/
inductive CallStep (entity name : String) : ObjectCall Value → List Value →
    Except Failure (Option Value) → List Value → List ExecutionKind → Prop where
  /-- An object that is there is got. -/
  | got {k : Value} {before after : List Value} {row : Value}
      (h : (row.property name).agree k = true) :
      CallStep entity name (.get k) (before ++ row :: after) (.ok (some row))
        (before ++ row :: after) [.get]
  /-- An object that is not there is not got. -/
  | notGot {k : Value} {rows : List Value} (h : rowUnder name k rows = none) :
      CallStep entity name (.get k) rows (.ok none) rows [.get]
  /-- An object that is there is loaded. -/
  | loaded {k : Value} {before after : List Value} {row : Value}
      (h : (row.property name).agree k = true) :
      CallStep entity name (.load k) (before ++ row :: after) (.ok (some row))
        (before ++ row :: after) [.get]
  /-- An object that is not there cannot be loaded. -/
  | notLoaded {k : Value} {rows : List Value} (h : rowUnder name k rows = none) :
      CallStep entity name (.load k) rows (.error (.ofKind (.notFound entity k))) rows [.get]
  /-- An object with a new identifier is kept behind all rows. -/
  | appended {object : Value} {rows : List Value}
      (hpresent : (object.property name).isNull = false)
      (h : rowUnder name (object.property name) rows = none) :
      CallStep entity name (.save object) rows (.ok none) (rows ++ [object]) [.save]
  /-- An object with the identifier of a row is kept in its place. -/
  | replaced {object row : Value} {before after : List Value}
      (hpresent : (object.property name).isNull = false)
      (h : (row.property name).agree (object.property name) = true) :
      CallStep entity name (.save object) (before ++ row :: after) (.ok none)
        (before ++ object :: after) [.save]
  /-- An object without an identifier is not kept. -/
  | notKept {object : Value} {rows : List Value} {failure : Failure}
      (habsent : (object.property name).isNull = true)
      (hinvalid : failure.isInvalidArgument = true) :
      CallStep entity name (.save object) rows (.error failure) rows [.save]
  /-- The row with the identifier of an object is removed. -/
  | removed {object row : Value} {before after : List Value}
      (h : (row.property name).agree (object.property name) = true) :
      CallStep entity name (.delete object) (before ++ row :: after) (.ok none)
        (before ++ after) [.delete]
  /-- An object whose identifier no row has cannot be removed. -/
  | notRemoved {object : Value} {rows : List Value} {failure : Failure}
      (h : rowUnder name (object.property name) rows = none) :
      CallStep entity name (.delete object) rows (.error failure) rows [.delete]
  /-- The row with an identifier is removed. -/
  | removedById {k : Value} {before after : List Value} {row : Value}
      (h : (row.property name).agree k = true) :
      CallStep entity name (.deleteById k) (before ++ row :: after) (.ok none)
        (before ++ after) [.get, .delete]
  /-- An identifier that no row has cannot be removed, and no removal is recorded. -/
  | notRemovedById {k : Value} {rows : List Value} (h : rowUnder name k rows = none) :
      CallStep entity name (.deleteById k) rows (.error (.ofKind (.notFound entity k))) rows
        [.get]

variable {entity name : String} {k : Value} {rows before after : List Value}
  {row object : Value} {done : List Execution} {w : World Store}

/-- A call that fails leaves the rows as they were. -/
theorem CallStep.rows_of_error {call : ObjectCall Value} {rows' : List Value}
    {failure : Failure} {recorded : List ExecutionKind}
    (h : CallStep entity name call rows (.error failure) rows' recorded) : rows' = rows := by
  cases h <;> rfl

/-- A call leaves each row an identifier of its own. -/
theorem CallStep.keyed {call : ObjectCall Value} {answer : Except Failure (Option Value)}
    {rows' : List Value} {recorded : List ExecutionKind} (hproper : call.IsProper name)
    (h : CallStep entity name call rows answer rows' recorded) (hkeyed : IsKeyed name rows) :
    IsKeyed name rows' := by
  cases h with
  | got | notGot | loaded | notLoaded | notKept | notRemoved | notRemovedById => exact hkeyed
  | appended hpresent hnew => exact hkeyed.append hpresent hproper.1 hnew
  | replaced hpresent hrow => exact hkeyed.replace hrow hpresent hproper.1
  | removed | removedById => exact hkeyed.erase

/-- A call changes what stands under the identifier that it names, and nothing else. -/
theorem CallStep.rowUnder {call : ObjectCall Value} {answer : Except Failure (Option Value)}
    {rows' : List Value} {recorded : List ExecutionKind} (hproper : call.IsProper name)
    (h : CallStep entity name call rows answer rows' recorded) (hkeyed : IsKeyed name rows)
    (k : Value) : rowUnder name k rows' = call.leaves name k (rowUnder name k rows) := by
  cases h with
  | got | notGot | loaded | notLoaded => rfl
  | appended hpresent hnew =>
      rw [rowUnder_append hproper.1 hnew]
      simp [leaves, hpresent]
  | replaced hpresent hrow =>
      have hsame := Value.agree_congr_left (hkeyed.regular _ (by simp)) hrow k
      rw [rowUnder_middle (hkeyed.replace hrow hpresent hproper.1), rowUnder_middle hkeyed]
      simp only [leaves, hpresent, hsame, Bool.not_false, Bool.true_and]
      split <;> rfl
  | notKept habsent => simp [leaves, habsent]
  | removed hrow => exact rowUnder_erase hkeyed hrow k
  | removedById hrow => exact rowUnder_erase hkeyed hrow k
  | notRemoved hnone => exact rowUnder_absent hproper.1 hnone k
  | notRemovedById hnone => exact rowUnder_absent hproper.1 hnone k

/-! ## Runs of calls -/

/-- The store knows these rows of an entity, by this identifying property, and has
recorded these executions. -/
structure Stands (entity name : String) (rows : List Value) (done : List Execution)
    (w : World Store) : Prop where
  rows : w.store.rows? entity = some rows
  idName : w.store.idName entity = name
  executed : w.store.executed = done

/-- Further executions on an entity. -/
def recordOf (entity : String) (kinds : List ExecutionKind) : List Execution :=
  kinds.map fun kind => ⟨kind, entity, .rows⟩

/-- The rows that stand are found. -/
theorem Stands.rows_eq (h : Stands entity name rows done w) : w.store.rows entity = .ok rows := by
  rw [Store.rows, h.rows]

/-- An execution is recorded behind the others. -/
theorem Stands.note (h : Stands entity name rows done w) (kind : ExecutionKind) :
    Stands entity name rows (done ++ recordOf entity [kind])
      (w.updateStore (·.note ⟨kind, entity, .rows⟩)) where
  rows := h.rows
  idName := h.idName
  executed := congrArg (· ++ recordOf entity [kind]) h.executed

/-- Other rows are put in the place of those that stand. -/
theorem Stands.put (h : Stands entity name rows done w) (others : List Value) :
    Stands entity name others done (w.updateStore (·.setRows entity others)) where
  rows := Store.rows_setRows_self _ entity others
  idName := h.idName
  executed := h.executed

/-- A journal entry changes nothing that stands. -/
theorem Stands.record (h : Stands entity name rows done w) (e : Journal.Event) :
    Stands entity name rows done (w.record e) :=
  ⟨h.rows, h.idName, h.executed⟩

/-- Getting an object answers with the row that has its identifier. -/
theorem get_run (h : Stands entity name rows done w) (hkeyed : IsKeyed name rows) (k : Value) :
    ∃ w', (Repository.get ⟨backend, entity⟩ k).run w = (.ok (rowUnder name k rows), w') ∧
      Stands entity name rows (done ++ recordOf entity [.get]) w' := by
  refine ⟨_, ?_, h.note .get⟩
  have hfound : ((position? name k rows).bind fun i => rows[i]?).filter (!·.isNull) =
      rowUnder name k rows := by
    have hfind : (position? name k rows).bind (fun i => rows[i]?) = rowUnder name k rows :=
      List.find?_eq_bind_findIdx?_getElem?.symm
    rw [hfind]
    cases hrow : rowUnder name k rows with
    | none => rfl
    | some row =>
        obtain ⟨before, after, rfl, -, -⟩ := rowUnder_eq_some hrow
        have hthere : row.isNull = false := by
          have hpresent := hkeyed.present row (by simp)
          cases row with
          | null => simp [Value.property, Value.isNull] at hpresent
          | _ => rfl
        simp [hthere]
  change (Collection.get entity k).run w = _
  simp only [Collection.get, note, rowsOf, idName, Action.run_bind, Action.run_change,
    Action.run_state, Action.run_ofExcept, Action.run_pure, World.store_updateStore, rows_note,
    h.rows_eq]
  rw [← hfound, ← h.idName]
  rfl

/-- Keeping an object without an identifier fails. -/
theorem save_run_absent (h : Stands entity name rows done w)
    (habsent : (object.property name).isNull = true) :
    ∃ failure w', (Repository.save ⟨backend, entity⟩ object).run w = (.error failure, w') ∧
      failure.isInvalidArgument = true ∧
      Stands entity name rows (done ++ recordOf entity [.save]) w' := by
  have hname : (w.store.note ⟨.save, entity, .rows⟩).idName entity = name := h.idName
  have hsave : ∃ failure, (Collection.save entity object).run w =
      (.error failure, w.updateStore (·.note ⟨.save, entity, .rows⟩)) ∧
        failure.isInvalidArgument = true := by
    simp only [Collection.save, note, idName, Action.run_bind, Action.run_change,
      Action.run_state, Action.run_pure, World.store_updateStore, hname, habsent, if_true]
    exact ⟨_, rfl, rfl⟩
  obtain ⟨failure, hrun, hinvalid⟩ := hsave
  exact ⟨failure, _, Action.run_bind_error hrun, hinvalid, h.note .save⟩

/-- Keeping an object with an identifier changes the rows. -/
theorem save_run (h : Stands entity name rows done w)
    (hpresent : (object.property name).isNull = false) :
    ∃ w', (Repository.save ⟨backend, entity⟩ object).run w = (.ok (), w') ∧
      Stands entity name (keep name object rows) (done ++ recordOf entity [.save]) w' := by
  have hname : (w.store.note ⟨.save, entity, .rows⟩).idName entity = name := h.idName
  have hrows : (w.store.note ⟨.save, entity, .rows⟩).rows? entity = some rows := h.rows
  have hsave : (Collection.save entity object).run w = (.ok object,
      (w.updateStore (·.note ⟨.save, entity, .rows⟩)).updateStore
        (·.setRows entity (keep name object rows))) := by
    simp only [Collection.save, note, idName, Action.run_bind, Action.run_change,
      Action.run_state, Action.run_pure, hname, hpresent, Bool.false_eq_true, if_false,
      World.updateStore, hrows, Option.getD_some]
  exact ⟨_, (Action.run_bind_ok hsave).trans rfl,
    ((h.note .save).put (keep name object rows)).record _⟩

/-- The report that no row has the identifier of an object to be removed. -/
def notStored (entity name : String) (identifier : Value) : Failure :=
  .execution
    ("no stored " ++ Text.quoted entity ++ " with " ++ name ++ "=" ++ identifier.shown ++
      " to delete")
    [("identifier", identifier)] none

/-- An object whose identifier no row has is not removed. -/
theorem delete_unstored (hname : w.store.idName entity = name)
    (hrows : w.store.rows? entity = some rows)
    (hnone : rowUnder name (object.property name) rows = none) :
    (Repository.delete ⟨backend, entity⟩ object).run w =
      (.error (notStored entity name (object.property name)),
        w.updateStore (·.note ⟨.delete, entity, .rows⟩)) := by
  have hname : (w.store.note ⟨.delete, entity, .rows⟩).idName entity = name := hname
  have hknown : w.store.rows entity = .ok rows := by rw [Store.rows, hrows]
  refine Action.run_bind_error (show (Collection.delete entity object).run w = _ from ?_)
  simp only [Collection.delete, note, rowsOf, idName, Action.run_bind, Action.run_change,
    Action.run_state, Action.run_ofExcept, Action.run_pure, World.store_updateStore,
    rows_note, hknown, hname, position?_eq_none hnone]
  rfl

/-- The first row with the identifier of an object is removed, and the removal is noted in
the journal. -/
theorem delete_stored (hname : w.store.idName entity = name)
    (hrows : w.store.rows? entity = some (before ++ row :: after))
    (hbefore : ∀ other ∈ before, (other.property name).agree (object.property name) = false)
    (hrow : (row.property name).agree (object.property name) = true) :
    ∃ e, (Repository.delete ⟨backend, entity⟩ object).run w =
      (.ok (), ((w.updateStore (·.note ⟨.delete, entity, .rows⟩)).updateStore
        (·.setRows entity (before ++ after))).record e) := by
  have hname : (w.store.note ⟨.delete, entity, .rows⟩).idName entity = name := hname
  have hknown : w.store.rows entity = .ok (before ++ row :: after) := by rw [Store.rows, hrows]
  have herase : (before ++ row :: after).eraseIdx before.length = before ++ after := by
    simp [List.eraseIdx_append_of_length_le]
  have hdelete : (Collection.delete entity object).run w = (.ok (),
      (w.updateStore (·.note ⟨.delete, entity, .rows⟩)).updateStore
        (·.setRows entity (before ++ after))) := by
    simp only [Collection.delete, note, rowsOf, idName, Action.run_bind, Action.run_change,
      Action.run_state, Action.run_ofExcept, Action.run_pure, World.store_updateStore,
      rows_note, hknown, hname, position?_middle hbefore hrow, herase]
  exact ⟨_, (Action.run_bind_ok hdelete).trans rfl⟩

/-- Removing an object fails when no row has its identifier. -/
theorem delete_run_none (h : Stands entity name rows done w)
    (hnone : rowUnder name (object.property name) rows = none) :
    ∃ failure w', (Repository.delete ⟨backend, entity⟩ object).run w = (.error failure, w') ∧
      Stands entity name rows (done ++ recordOf entity [.delete]) w' :=
  ⟨_, _, delete_unstored h.idName h.rows hnone, h.note .delete⟩

/-- Removing an object removes the row with its identifier. -/
theorem delete_run (h : Stands entity name (before ++ row :: after) done w)
    (hbefore : ∀ other ∈ before, (other.property name).agree (object.property name) = false)
    (hrow : (row.property name).agree (object.property name) = true) :
    ∃ w', (Repository.delete ⟨backend, entity⟩ object).run w = (.ok (), w') ∧
      Stands entity name (before ++ after) (done ++ recordOf entity [.delete]) w' := by
  obtain ⟨e, hrun⟩ := delete_stored h.idName h.rows hbefore hrow
  exact ⟨_, hrun, ((h.note .delete).put (before ++ after)).record e⟩

/-- Loading an object answers with the row that has its identifier, and fails when no row
has it. -/
theorem load_run (h : Stands entity name rows done w) (hkeyed : IsKeyed name rows)
    (k : Value) :
    ∃ w', (Repository.load ⟨backend, entity⟩ k).run w =
        ((rowUnder name k rows).elim (.error (.ofKind (.notFound entity k))) .ok, w') ∧
      Stands entity name rows (done ++ recordOf entity [.get]) w' := by
  obtain ⟨w', hrun, hw'⟩ := get_run h hkeyed k
  refine ⟨w', ?_, hw'⟩
  rw [Repository.load, Action.run_bind_ok hrun]
  cases rowUnder name k rows <;> rfl

/-- A row that has an identifier has itself as the one to be removed. -/
theorem deleteById_run (h : Stands entity name (before ++ row :: after) done w)
    (hkeyed : IsKeyed name (before ++ row :: after))
    (hrow : (row.property name).agree k = true) :
    ∃ w', (Repository.deleteById ⟨backend, entity⟩ k).run w = (.ok (), w') ∧
      Stands entity name (before ++ after) (done ++ recordOf entity [.get, .delete]) w' := by
  obtain ⟨w₁, hload, hw₁⟩ := load_run h hkeyed k
  rw [rowUnder_middle hkeyed, if_pos hrow] at hload
  have hself : (row.property name).agree (row.property name) = true :=
    Value.agree_trans hrow (Value.agree_symm (hkeyed.regular row (by simp)) hrow)
  have hothers := hkeyed.others hself
  obtain ⟨w₂, hdelete, hw₂⟩ :=
    delete_run hw₁ (fun other hother => hothers other (by simp [hother])) hself
  refine ⟨w₂, (Action.run_bind_ok hload).trans hdelete, ?_⟩
  rw [List.append_assoc] at hw₂
  exact hw₂

/-- What a call does is one of the steps. -/
theorem perform_step (h : Stands entity name rows done w) (hkeyed : IsKeyed name rows)
    (call : ObjectCall Value) :
    ∃ answer rows' recorded w', (call.perform ⟨backend, entity⟩).run w = (answer, w') ∧
      CallStep entity name call rows answer rows' recorded ∧
      Stands entity name rows' (done ++ recordOf entity recorded) w' := by
  cases call with
  | get k =>
      obtain ⟨w', hrun, hw'⟩ := get_run h hkeyed k
      cases hrow : rowUnder name k rows with
      | none => exact ⟨_, _, _, w', hrow ▸ hrun, .notGot hrow, hw'⟩
      | some row =>
          obtain ⟨before, after, rfl, hagree, -⟩ := rowUnder_eq_some hrow
          exact ⟨_, _, _, w', hrow ▸ hrun, .got hagree, hw'⟩
  | load k =>
      obtain ⟨w', hrun, hw'⟩ := load_run h hkeyed k
      cases hrow : rowUnder name k rows with
      | none =>
          rw [hrow] at hrun
          exact ⟨_, _, _, w', Action.run_bind_error hrun, .notLoaded hrow, hw'⟩
      | some row =>
          rw [hrow] at hrun
          obtain ⟨before, after, rfl, hagree, -⟩ := rowUnder_eq_some hrow
          exact ⟨_, _, _, w', Action.run_bind_ok hrun, .loaded hagree, hw'⟩
  | save object =>
      cases hnull : (object.property name).isNull with
      | true =>
          obtain ⟨failure, w', hrun, hinvalid, hw'⟩ := save_run_absent h hnull
          exact ⟨_, _, _, w', Action.run_bind_error hrun, .notKept hnull hinvalid, hw'⟩
      | false =>
          obtain ⟨w', hrun, hw'⟩ := save_run h hnull
          cases hrow : rowUnder name (object.property name) rows with
          | none =>
              rw [keep_new hrow] at hw'
              exact ⟨_, _, _, w', Action.run_bind_ok hrun, .appended hnull hrow, hw'⟩
          | some row =>
              obtain ⟨before, after, rfl, hagree, hbefore⟩ := rowUnder_eq_some hrow
              rw [keep_old hbefore hagree] at hw'
              exact ⟨_, _, _, w', Action.run_bind_ok hrun, .replaced hnull hagree, hw'⟩
  | delete object =>
      cases hrow : rowUnder name (object.property name) rows with
      | none =>
          obtain ⟨failure, w', hrun, hw'⟩ := delete_run_none h hrow
          exact ⟨_, _, _, w', Action.run_bind_error hrun, .notRemoved hrow, hw'⟩
      | some row =>
          obtain ⟨before, after, rfl, hagree, hbefore⟩ := rowUnder_eq_some hrow
          obtain ⟨w', hrun, hw'⟩ := delete_run h hbefore hagree
          exact ⟨_, _, _, w', Action.run_bind_ok hrun, .removed hagree, hw'⟩
  | deleteById k =>
      cases hrow : rowUnder name k rows with
      | none =>
          obtain ⟨w', hrun, hw'⟩ := load_run h hkeyed k
          rw [hrow] at hrun
          exact ⟨_, _, _, w', Action.run_bind_error (Action.run_bind_error hrun),
            .notRemovedById hrow, hw'⟩
      | some row =>
          obtain ⟨before, after, rfl, hagree, -⟩ := rowUnder_eq_some hrow
          obtain ⟨w', hrun, hw'⟩ := deleteById_run h hkeyed hagree
          exact ⟨_, _, _, w', Action.run_bind_ok hrun, .removedById hagree, hw'⟩

/-- Calls one after another leave each row an identifier of its own, and under each
identifier what they leave there. -/
theorem performAll_stands {calls : List (ObjectCall Value)}
    (hcalls : ∀ call ∈ calls, call.IsProper name) (h : Stands entity name rows done w)
    (hkeyed : IsKeyed name rows) :
    ∃ kept done', Stands entity name kept done' (performAll ⟨backend, entity⟩ calls w) ∧
      IsKeyed name kept ∧
      ∀ k, rowUnder name k kept = leftBy name k calls (rowUnder name k rows) := by
  induction calls generalizing rows done w with
  | nil => exact ⟨rows, done, h, hkeyed, fun _ => rfl⟩
  | cons call calls ih =>
      rw [List.forall_mem_cons] at hcalls
      obtain ⟨answer, rows', recorded, w', hrun, hstep, hw'⟩ := perform_step h hkeyed call
      obtain ⟨kept, done', hstands, hkept, hleft⟩ :=
        ih hcalls.2 hw' (hstep.keyed hcalls.1 hkeyed)
      refine ⟨kept, done', ?_, hkept, fun k => ?_⟩
      · rw [performAll, List.foldl_cons, hrun]
        exact hstands
      · rw [hleft k, hstep.rowUnder hcalls.1 hkeyed k]
        rfl

/-- A list of rows with an identifier each serves as a map in order of arrival.  Whatever
calls were made, the rows have an identifier each, and an identifier gets what the calls
have left under it.  A next call answers and changes the rows as its step says, and when
it fails, it leaves them as they are. -/
theorem performAll_refines (hrows : w.store.rows? entity = some rows)
    (hkeyed : IsKeyed (w.store.idName entity) rows) {calls : List (ObjectCall Value)}
    (hcalls : ∀ call ∈ calls, call.IsProper (w.store.idName entity)) :
    let name := w.store.idName entity
    let w' := performAll ⟨backend, entity⟩ calls w
    ∃ kept, w'.store.rows? entity = some kept ∧ IsKeyed name kept ∧
      (∀ k, ((Repository.get ⟨backend, entity⟩ k).run w').1 =
        .ok (leftBy name k calls (rowUnder name k rows))) ∧
      ∀ call : ObjectCall Value, ∃ answer kept' recorded w'',
        (call.perform ⟨backend, entity⟩).run w' = (answer, w'') ∧
        w''.store.rows? entity = some kept' ∧
        w''.store.executed = w'.store.executed ++ recordOf entity recorded ∧
        CallStep entity name call kept answer kept' recorded ∧
        ∀ failure, answer = .error failure → kept' = kept := by
  intro name w'
  obtain ⟨kept, done, hstands, hkept, hleft⟩ :=
    performAll_stands hcalls ⟨hrows, rfl, rfl⟩ hkeyed
  refine ⟨kept, hstands.rows, hkept, ?_, ?_⟩
  · intro k
    obtain ⟨w'', hrun, -⟩ := get_run hstands hkept k
    rw [hrun, hleft k]
  · intro call
    obtain ⟨answer, kept', recorded, w'', hrun, hstep, hw''⟩ := perform_step hstands hkept call
    refine ⟨answer, kept', recorded, w'', hrun, hw''.rows, ?_, hstep, ?_⟩
    · rw [hw''.executed, hstands.executed]
    · rintro failure rfl
      exact hstep.rows_of_error

/-- A store with two people. -/
def twoPeople : World Store where
  store :=
    { collections :=
        [("people", [.mapping [("id", .int 1), ("name", .text "ann")],
          .mapping [("id", .int 2), ("name", .text "bob")]])] }

/-- Somebody whose identifier is true, which is equal to one. -/
def eve : Value := .mapping [("id", .bool true), ("name", .text "eve")]

/-- The identifier one gets somebody who was kept under true, and the identifier two gets
nobody once its row was removed, although a second removal failed. -/
theorem performAll_refines_people :
    let w' := performAll ⟨backend, "people"⟩
      [.save eve, .deleteById (.int 2), .delete (.mapping [("id", .int 2)])] twoPeople
    ((Repository.get ⟨backend, "people"⟩ (.int 1)).run w').1 = .ok (some eve) ∧
      ((Repository.get ⟨backend, "people"⟩ (.int 2)).run w').1 = .ok none := by
  have hkeyed : IsKeyed (twoPeople.store.idName "people")
      [.mapping [("id", .int 1), ("name", .text "ann")],
        .mapping [("id", .int 2), ("name", .text "bob")]] := by
    constructor
    · simp only [List.forall_mem_cons]
      exact ⟨rfl, rfl, List.forall_mem_nil _⟩
    · simp only [List.forall_mem_cons]
      exact ⟨trivial, trivial, List.forall_mem_nil _⟩
    · rw [List.pairwise_pair]
      rfl
  have hcalls : ∀ call ∈ [ObjectCall.save eve, .deleteById (.int 2),
      .delete (.mapping [("id", .int 2)])],
      call.IsProper (twoPeople.store.idName "people") := by
    simp only [List.forall_mem_cons]
    exact ⟨⟨trivial, rfl⟩, ⟨trivial, rfl⟩, ⟨trivial, rfl⟩, List.forall_mem_nil _⟩
  obtain ⟨kept, -, -, hget, -⟩ :=
    performAll_refines (show twoPeople.store.rows? "people" = some _ from rfl) hkeyed hcalls
  exact ⟨hget (.int 1), hget (.int 2)⟩

end Collection
end PagedQuery
