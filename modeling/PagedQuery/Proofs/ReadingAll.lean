import Mathlib.Data.List.Forall2

/-!
# Reading a list item by item

Items that are read one after another give their values in order, or else the failure of the
first item that cannot be read.

Main results:

- Theorem `mapM_eq_ok_iff` and Theorem `mapM_eq_error_iff`: what reading a list gives, and how
  it fails.
-/

namespace PagedQuery

variable {ε α β : Type} {read : α → Except ε β}

/-- A list is read as far as its first item can be read, and then the others. -/
theorem mapM_cons_eq (a : α) (items : List α) :
    (a :: items).mapM read =
      (read a).bind fun value => (items.mapM read).map (value :: ·) := by
  rw [List.mapM_cons]
  rfl

/-- A list gives values exactly when each of its items gives the value at its place. -/
theorem mapM_eq_ok_iff {items : List α} {values : List β} :
    items.mapM read = .ok values ↔
      List.Forall₂ (fun item value => read item = .ok value) items values := by
  induction items generalizing values with
  | nil =>
      rw [List.mapM_nil, List.forall₂_nil_left_iff]
      exact ⟨fun h => (Except.ok.inj h).symm, fun h => congrArg _ h.symm⟩
  | cons a items ih =>
      rw [mapM_cons_eq, List.forall₂_cons_left_iff]
      constructor
      · intro h
        cases ha : read a with
        | error e => rw [ha] at h; cases h
        | ok value =>
            cases hitems : items.mapM read with
            | error e => rw [ha, hitems] at h; cases h
            | ok rest =>
                rw [ha, hitems] at h
                exact ⟨value, rest, rfl, ih.1 hitems, (Except.ok.inj h).symm⟩
      · rintro ⟨value, rest, ha, hrest, rfl⟩
        rw [ha, ih.2 hrest]
        rfl

/-- A list is not read exactly when one of its items is not, and all items before it are. -/
theorem mapM_eq_error_iff {items : List α} {e : ε} :
    items.mapM read = .error e ↔ ∃ before item after, items = before ++ item :: after ∧
      (∀ other ∈ before, ∃ value, read other = .ok value) ∧ read item = .error e := by
  induction items with
  | nil =>
      rw [List.mapM_nil]
      constructor
      · rintro ⟨⟩
      · rintro ⟨before, item, after, h, -⟩
        exact absurd h.symm (List.append_ne_nil_of_right_ne_nil _ (List.cons_ne_nil _ _))
  | cons a items ih =>
      rw [mapM_cons_eq]
      constructor
      · intro h
        cases ha : read a with
        | error e' =>
            rw [ha] at h
            obtain rfl := Except.error.inj h
            exact ⟨[], a, items, rfl, List.forall_mem_nil _, ha⟩
        | ok value =>
            cases hitems : items.mapM read with
            | ok rest => rw [ha, hitems] at h; cases h
            | error e' =>
                rw [ha, hitems] at h
                obtain rfl := Except.error.inj h
                obtain ⟨before, item, after, rfl, hbefore, hitem⟩ := ih.1 hitems
                exact ⟨a :: before, item, after, rfl,
                  List.forall_mem_cons.2 ⟨⟨value, ha⟩, hbefore⟩, hitem⟩
      · rintro ⟨before, item, after, hitems, hbefore, hitem⟩
        cases before with
        | nil =>
            obtain ⟨rfl, -⟩ := List.cons.inj hitems
            rw [hitem]
            rfl
        | cons b before =>
            obtain ⟨rfl, rfl⟩ := List.cons.inj hitems
            obtain ⟨⟨value, ha⟩, hrest⟩ := List.forall_mem_cons.1 hbefore
            rw [ha, ih.2 ⟨before, item, after, rfl, hrest, hitem⟩]
            rfl

end PagedQuery
