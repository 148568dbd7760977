import PagedQuery.Collection.Searching

/-!
# Runs and binary insertion

A run is a stretch of items in order.  The longest run at the front of a list is
found by comparing neighbours, and it is extended by inserting each further item
at a place found by halving.  The result is defined for any relation, also for
one that is no order: it only depends on the answers about the pairs that are
compared.

Main results:

- Theorem `leadingRun_perm`: the run at the front and the rest are all items.
- Theorem `extendRun_perm`: extending a run neither loses nor repeats an item.
-/

namespace PagedQuery
namespace Collection

variable {α : Type}

/-! ## The run at the front -/

/-- The items from `a` on up to the first one that comes before its neighbour,
and the rest. -/
def risingRun (before : α → α → Bool) (a : α) : List α → List α × List α
  | [] => ([a], [])
  | b :: rest =>
      if before b a then ([a], b :: rest)
      else
        let (run, more) := risingRun before b rest
        (a :: run, more)

/-- The items from `a` on as long as each comes before its neighbour, and the
rest. -/
def fallingRun (before : α → α → Bool) (a : α) : List α → List α × List α
  | [] => ([a], [])
  | b :: rest =>
      if before b a then
        let (run, more) := fallingRun before b rest
        (a :: run, more)
      else ([a], b :: rest)

/-- The longest run at the front of a list, in rising order, and the rest. -/
def leadingRun (before : α → α → Bool) : List α → List α × List α
  | a :: b :: rest =>
      if before b a then
        let (run, more) := fallingRun before a (b :: rest)
        (run.reverse, more)
      else risingRun before a (b :: rest)
  | items => (items, [])

/-! ## Insertion -/

/-- Insert an item into sorted ones, behind those that it does not come before. -/
def insertItem (before : α → α → Bool) (sorted : List α) (item : α) : List α :=
  let place := search (meetsAt (fun other => !before item other) sorted) 0 sorted.length
  sorted.take place ++ item :: sorted.drop place

/-- A run extended by further items, which are inserted one after another. -/
def extendRun (before : α → α → Bool) (run more : List α) : List α :=
  more.foldl (insertItem before) run

/-! ## No item is lost -/

theorem risingRun_append (before : α → α → Bool) (a : α) (items : List α) :
    (risingRun before a items).1 ++ (risingRun before a items).2 = a :: items := by
  induction items generalizing a with
  | nil => rfl
  | cons b rest ih =>
      unfold risingRun
      split
      · rfl
      · simpa using ih b

theorem fallingRun_append (before : α → α → Bool) (a : α) (items : List α) :
    (fallingRun before a items).1 ++ (fallingRun before a items).2 = a :: items := by
  induction items generalizing a with
  | nil => rfl
  | cons b rest ih =>
      unfold fallingRun
      split
      · simpa using ih b
      · rfl

theorem leadingRun_perm (before : α → α → Bool) (items : List α) :
    ((leadingRun before items).1 ++ (leadingRun before items).2).Perm items := by
  unfold leadingRun
  split
  · split
    · refine ((List.reverse_perm _).append_right _).trans ?_
      rw [fallingRun_append]
    · rw [risingRun_append]
  · simp

theorem insertItem_perm (before : α → α → Bool) (sorted : List α) (item : α) :
    (insertItem before sorted item).Perm (item :: sorted) := by
  unfold insertItem
  refine List.perm_middle.trans ?_
  rw [List.take_append_drop]

theorem extendRun_perm (before : α → α → Bool) (run more : List α) :
    (extendRun before run more).Perm (run ++ more) := by
  unfold extendRun
  induction more generalizing run with
  | nil => simp
  | cons item more ih =>
      refine (ih _).trans (((insertItem_perm before run item).append_right more).trans ?_)
      exact List.perm_middle.symm

end Collection
end PagedQuery
