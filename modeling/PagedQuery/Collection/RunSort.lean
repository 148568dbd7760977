import PagedQuery.Collection.Insertion
import PagedQuery.Collection.Merging

/-!
# Sorting by runs

A list is cut into runs, short ones being extended to a least length, and
neighbouring runs are merged.  Which runs are merged first depends on where the
boundary between them lies: a boundary near a half, a quarter, … of the list has
a small power and is dissolved late.  The result is defined for any relation and
stable for an order.

Main results:

- Theorem `cutRuns_perm`: the runs are all items.
- Theorem `runSorted_perm`: sorting neither loses nor repeats an item.
-/

namespace PagedQuery
namespace Collection

variable {α : Type}

/-! ## Cutting -/

/-- The least length of runs in a list of a length: the first six binary digits of
the length, one more if a later digit is not zero.  The flag says that such a
digit was met. -/
def leastRun (length : Nat) (more : Bool) : Nat :=
  if length < 64 then length + (if more then 1 else 0)
  else leastRun (length / 2) (more || length % 2 == 1)
termination_by length

/-- Cut a list into at most a number of runs and a rest. -/
def cutRuns (before : α → α → Bool) (least : Nat) : Nat → List α → List (List α)
  | _, [] => []
  | 0, items => [items]
  | count + 1, items =>
      let (run, rest) := leadingRun before items
      let missing := least - run.length
      extendRun before run (rest.take missing) ::
        cutRuns before least count (rest.drop missing)

/-! ## Merging -/

/-- A run, where it starts, and the power of the boundary behind it. -/
structure Run (α : Type) where
  start : Nat
  items : List α
  power : Nat := 0

/-- The first binary digit in which two fractions of a length differ, within a
number of digits. -/
def differingDigit (length : Nat) : Nat → Nat → Nat → Nat
  | 0, _, _ => 0
  | digits + 1, a, b =>
      if length ≤ a then 1 + differingDigit length digits (2 * (a - length)) (2 * (b - length))
      else if length ≤ b then 1
      else 1 + differingDigit length digits (2 * a) (2 * b)

/-- The power of the boundary between a run and the next one: the first binary
digit in which their middles differ, as fractions of the whole length. -/
def boundaryPower (length : Nat) (run : Run α) (next : Nat) : Nat :=
  let middle := 2 * run.start + run.items.length
  differingDigit length 64 middle (middle + run.items.length + next)

/-- Merge the last run with those before it as long as the boundary between them
has a greater power than a given one. -/
def mergeAbove (before : α → α → Bool) (power : Nat) :
    Nat → Run α → List (Run α) → Nat × Run α × List (Run α)
  | threshold, top, [] => (threshold, top, [])
  | threshold, top, below :: rest =>
      if power < below.power then
        let merged := mergeRuns before threshold below.items top.items
        mergeAbove before power merged.1 { below with items := merged.2 } rest
      else (threshold, top, below :: rest)

/-- Put the next run on top of those that are not merged yet. -/
def pushRun (before : α → α → Bool) (length : Nat) :
    Nat × List (Run α) → List α → Nat × List (Run α)
  | (threshold, []), items => (threshold, [⟨0, items, 0⟩])
  | (threshold, top :: rest), items =>
      let power := boundaryPower length top items.length
      let (threshold, top, rest) := mergeAbove before power threshold top rest
      (threshold, ⟨top.start + top.items.length, items, 0⟩ :: { top with power := power } :: rest)

/-- Merge all runs, the last one first in the list, in at most a number of steps;
of three runs the middle one goes to the shorter neighbour. -/
def mergeAll (before : α → α → Bool) : Nat → Nat → List (List α) → List α
  | steps + 1, threshold, c :: b :: a :: rest =>
      if a.length < c.length then
        let merged := mergeRuns before threshold a b
        mergeAll before steps merged.1 (c :: merged.2 :: rest)
      else
        let merged := mergeRuns before threshold b c
        mergeAll before steps merged.1 (merged.2 :: a :: rest)
  | _ + 1, threshold, [b, a] => (mergeRuns before threshold a b).2
  | _, _, runs => runs.reverse.flatten

/-- Sort a list by runs. -/
def runSorted (before : α → α → Bool) (items : List α) : List α :=
  let runs := cutRuns before (leastRun items.length false) items.length items
  let (threshold, pending) := runs.foldl (pushRun before items.length) (shortStretch, [])
  mergeAll before runs.length threshold (pending.map (·.items))

/-! ## No item is lost -/

theorem cutRuns_perm (before : α → α → Bool) (least count : Nat) (items : List α) :
    (cutRuns before least count items).flatten.Perm items := by
  induction count generalizing items with
  | zero => cases items <;> simp [cutRuns]
  | succ count ih =>
      cases items with
      | nil => simp [cutRuns]
      | cons a items =>
          have hrun := leadingRun_perm before (a :: items)
          simp only [cutRuns, List.flatten_cons]
          refine ((extendRun_perm before _ _).append (ih _)).trans ?_
          rw [List.append_assoc, List.take_append_drop]
          exact hrun

/-- The items of runs of which the last one stands first. -/
def pendingItems (runs : List (Run α)) : List α := (runs.map (·.items)).reverse.flatten

theorem pendingItems_cons (run : Run α) (runs : List (Run α)) :
    pendingItems (run :: runs) = pendingItems runs ++ run.items := by
  simp [pendingItems]

theorem mergeAbove_perm (before : α → α → Bool) (power threshold : Nat) (top : Run α)
    (rest : List (Run α)) :
    (pendingItems ((mergeAbove before power threshold top rest).2.1 ::
      (mergeAbove before power threshold top rest).2.2)).Perm
      (pendingItems (top :: rest)) := by
  induction rest generalizing threshold top with
  | nil => exact List.Perm.refl _
  | cons below rest ih =>
      unfold mergeAbove
      split
      · refine (ih _ _).trans ?_
        rw [pendingItems_cons, pendingItems_cons, pendingItems_cons, List.append_assoc]
        exact (mergeRuns_perm before threshold below.items top.items).append_left _
      · exact List.Perm.refl _

theorem pushRun_perm (before : α → α → Bool) (length : Nat) (state : Nat × List (Run α))
    (items : List α) :
    (pendingItems (pushRun before length state items).2).Perm
      (pendingItems state.2 ++ items) := by
  obtain ⟨threshold, pending⟩ := state
  cases pending with
  | nil => simp [pushRun, pendingItems]
  | cons top rest =>
      have h := mergeAbove_perm before (boundaryPower length top items.length) threshold top rest
      simp only [pushRun]
      rw [pendingItems_cons]
      refine List.Perm.append_right _ ?_
      rw [pendingItems_cons] at h ⊢
      exact h

theorem foldl_pushRun_perm (before : α → α → Bool) (length : Nat) (runs : List (List α))
    (state : Nat × List (Run α)) :
    (pendingItems (runs.foldl (pushRun before length) state).2).Perm
      (pendingItems state.2 ++ runs.flatten) := by
  induction runs generalizing state with
  | nil => simp
  | cons run runs ih =>
      refine (ih _).trans ?_
      rw [List.flatten_cons, ← List.append_assoc]
      exact (pushRun_perm before length state run).append_right _

theorem mergeAll_perm (before : α → α → Bool) (steps threshold : Nat)
    (runs : List (List α)) :
    (mergeAll before steps threshold runs).Perm runs.reverse.flatten := by
  fun_induction mergeAll before steps threshold runs with
  | case1 steps threshold c b a rest h merged ih =>
      have hp := mergeRuns_perm before threshold a b
      refine ih.trans ?_
      simp only [List.reverse_cons, List.flatten_append, List.flatten_cons, List.flatten_nil,
        List.append_nil, List.append_assoc]
      refine List.Perm.append_left _ ?_
      rw [← List.append_assoc]
      exact hp.append_right c
  | case2 steps threshold c b a rest h merged ih =>
      have hp := mergeRuns_perm before threshold b c
      refine ih.trans ?_
      simp only [List.reverse_cons, List.flatten_append, List.flatten_cons, List.flatten_nil,
        List.append_nil, List.append_assoc]
      exact (hp.append_left _).append_left _
  | case3 steps threshold b a => simpa using mergeRuns_perm before threshold a b
  | case4 => exact List.Perm.refl _

theorem runSorted_perm (before : α → α → Bool) (items : List α) :
    (runSorted before items).Perm items := by
  unfold runSorted
  refine (mergeAll_perm _ _ _ _).trans ?_
  refine (foldl_pushRun_perm before items.length _ (shortStretch, [])).trans ?_
  exact cutRuns_perm _ _ _ _

end Collection
end PagedQuery
