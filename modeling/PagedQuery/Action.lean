import PagedQuery.Failure

/-!
# Actions

An action reads and changes a state and ends with a value or with a failure.
What it changed before a failure stays changed.

Main results:

- Theorem `run_bind_ok`: after a success the next action goes on.
- Theorem `run_bind_error`: a failure ends the whole action.
-/

namespace PagedQuery

/-- An action on a state. -/
structure Action (ω α : Type) where
  run : ω → Except Failure α × ω

namespace Action

variable {ω α β : Type}

/-- End with a value. -/
def pure (a : α) : Action ω α := ⟨fun w => (.ok a, w)⟩

/-- Go on with the value of an action unless it fails. -/
def bind (x : Action ω α) (f : α → Action ω β) : Action ω β where
  run w :=
    match x.run w with
    | (.ok a, w) => (f a).run w
    | (.error failure, w) => (.error failure, w)

instance : Monad (Action ω) where
  pure := pure
  bind := bind

/-- End with a failure. -/
def fail (failure : Failure) : Action ω α := ⟨fun w => (.error failure, w)⟩

/-- The state. -/
def state : Action ω ω := ⟨fun w => (.ok w, w)⟩

/-- Change the state. -/
def change (f : ω → ω) : Action ω Unit := ⟨fun w => (.ok (), f w)⟩

/-- End as a computation without state ends. -/
def ofExcept (x : Except Failure α) : Action ω α := ⟨fun w => (x, w)⟩

/-- Run an action and hold on to how it ends. -/
def outcome (x : Action ω α) : Action ω (Except Failure α) where
  run w :=
    match x.run w with
    | (result, w) => (.ok result, w)

/-- Run an action on a part of the state. -/
def onPart {π : Type} (get : ω → π) (put : π → ω → ω) (x : Action π α) : Action ω α where
  run w :=
    match x.run (get w) with
    | (result, part) => (result, put part w)

@[simp]
theorem run_pure (a : α) (w : ω) : (Pure.pure a : Action ω α).run w = (.ok a, w) := rfl

theorem run_bind_ok {x : Action ω α} {f : α → Action ω β} {w w' : ω} {a : α}
    (h : x.run w = (.ok a, w')) : (x >>= f).run w = (f a).run w' := by
  change (match x.run w with
    | (.ok a, w) => (f a).run w
    | (.error failure, w) => (.error failure, w)) = _
  rw [h]

theorem run_bind_error {x : Action ω α} {f : α → Action ω β} {w w' : ω}
    {failure : Failure} (h : x.run w = (.error failure, w')) :
    (x >>= f).run w = (.error failure, w') := by
  change (match x.run w with
    | (.ok a, w) => (f a).run w
    | (.error failure, w) => (.error failure, w)) = _
  rw [h]

@[simp]
theorem run_fail (failure : Failure) (w : ω) :
    (fail failure : Action ω α).run w = (.error failure, w) := rfl

@[simp]
theorem run_state (w : ω) : (state : Action ω ω).run w = (.ok w, w) := rfl

@[simp]
theorem run_change (f : ω → ω) (w : ω) : (change f).run w = (.ok (), f w) := rfl

@[simp]
theorem run_ofExcept (x : Except Failure α) (w : ω) : (ofExcept x).run w = (x, w) := rfl

end Action

end PagedQuery
