import PagedQuery.Failure

/-!
# Row transforms

A transform turns one row into another value, or fails on it.  This module
applies transforms to all rows of a result and lists the transforms known by
name.

Main results:

- Theorem `mapRows_ok_length`: a transformed result has as many rows as before.
- Theorem `mapRows_pure`: a transform that never fails is a map.
-/

namespace PagedQuery

/-- Apply a function to all rows; the first failure decides. -/
def mapRows {α β : Type} (f : α → Except Failure β) : List α → Except Failure (List β)
  | [] => .ok []
  | row :: rows =>
      match f row with
      | .error failure => .error failure
      | .ok image =>
          match mapRows f rows with
          | .error failure => .error failure
          | .ok images => .ok (image :: images)

theorem mapRows_ok_length {α β : Type} {f : α → Except Failure β} {rows : List α}
    {images : List β} (h : mapRows f rows = .ok images) : images.length = rows.length := by
  induction rows generalizing images with
  | nil =>
      simp only [mapRows, Except.ok.injEq] at h
      simp [← h]
  | cons row rows ih =>
      simp only [mapRows] at h
      split at h
      · simp at h
      · split at h
        · simp at h
        · rename_i rest hrest
          simp only [Except.ok.injEq] at h
          simp [← h, ih hrest]

theorem mapRows_pure {α β : Type} (f : α → β) (rows : List α) :
    mapRows (fun row => .ok (f row)) rows = .ok (rows.map f) := by
  induction rows with
  | nil => rfl
  | cons row rows ih => simp [mapRows, ih]

/-- A named function on rows. -/
structure Transform where
  name : String
  apply : Value → Except Failure Value

namespace Transform

/-! ## Transforms known by name -/

/-- The item of a row at a position. -/
def item (row : Value) (position : Nat) : Except Failure Value :=
  let pick (items : List Value) : Except Failure Value :=
    match items[position]? with
    | some value => .ok value
    | none => .error .beyond
  match row with
  | .list items | .tuple items => pick items
  | .text s => pick (s.toList.map fun c => .text (String.singleton c))
  | .mapping _ => .error (.missing (.int position))
  | _ => .error .mismatch

/-- The row alone in a list. -/
def wrap : Transform := ⟨"wrap", fun row => .ok (.list [row])⟩

/-- Nothing in place of the row. -/
def erase : Transform := ⟨"null", fun _ => .ok .null⟩

/-- A number doubled, a text or a sequence repeated. -/
def double : Transform where
  name := "double"
  apply
    | .bool b => .ok (.int (if b then 2 else 0))
    | .int n => .ok (.int (2 * n))
    | .double x => .ok (.double x.twice)
    | .text s => .ok (.text (s ++ s))
    | .list items => .ok (.list (items ++ items))
    | .tuple items => .ok (.tuple (items ++ items))
    | _ => .error .mismatch

/-- The number of characters, items or entries. -/
def size : Transform where
  name := "size"
  apply
    | .text s => .ok (.int s.length)
    | .list items | .tuple items => .ok (.int items.length)
    | .mapping entries => .ok (.int entries.length)
    | _ => .error .mismatch

/-- The first item. -/
def first : Transform := ⟨"first", fun row => item row 0⟩

/-- The first two items as text, with a colon in between. -/
def joined : Transform where
  name := "join"
  apply row :=
    match item row 0 with
    | .error failure => .error failure
    | .ok a =>
        match item row 1 with
        | .error failure => .error failure
        | .ok b => .ok (.text (a.plain ++ ":" ++ b.plain))

/-- The transforms known by name. -/
def catalogue : List Transform := [wrap, erase, double, size, first, joined]

/-- The transform with a name. -/
def named? (name : String) : Option Transform := catalogue.find? (·.name == name)

end Transform

end PagedQuery
