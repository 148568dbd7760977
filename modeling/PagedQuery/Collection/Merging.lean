import PagedQuery.Collection.Searching

/-!
# Merging two runs

Two neighbouring runs are merged by taking the items of one of them aside.  The
items are compared one by one until one run has won several times in a row; from
then on whole stretches are moved, whose ends are found by galloping.  Like
sorting by insertion, merging is defined for any relation and only depends on
the answers about the pairs that are compared.

Main results:

- Theorem `mergeRuns_perm`: merging neither loses nor repeats an item.
-/

namespace PagedQuery
namespace Collection

variable {α : Type}

/-! ## A merge under way -/

/-- Two runs that are being merged: the one that was taken aside, the other one,
and the merged items, the last one first. -/
structure Merging (α : Type) where
  aside : List α
  other : List α
  merged : List α

namespace Merging

/-- Nothing is left to compare: the last item aside goes behind all others. -/
def isDone (m : Merging α) : Bool := m.aside.length ≤ 1 || m.other.isEmpty

/-- Move items of the run aside. -/
def moveAside (count : Nat) (m : Merging α) : Merging α :=
  if m.isDone then m
  else { m with aside := m.aside.drop count,
                merged := (m.aside.take count).reverse ++ m.merged }

/-- Move items of the other run. -/
def moveOther (count : Nat) (m : Merging α) : Merging α :=
  if m.isDone then m
  else { m with other := m.other.drop count,
                merged := (m.other.take count).reverse ++ m.merged }

/-- All items, in the order that a finished merge has. -/
def result (m : Merging α) : List α := m.merged.reverse ++ (m.other ++ m.aside)

end Merging

/-- How the items of two runs are compared in a merge. -/
structure MergeOrder (α : Type) where
  /-- The first item of the other run goes before the first one aside. -/
  otherWins : (aside other : α) → Bool
  /-- How many items aside go before an item of the other run. -/
  asideCount : α → List α → Nat
  /-- How many items of the other run go before an item aside. -/
  otherCount : α → List α → Nat
  /-- Stretches of the run aside are moved first. -/
  asideFirst : Bool

/-- Merge from the front: the first run is aside. -/
def fromFront (before : α → α → Bool) : MergeOrder α where
  otherWins a b := before b a
  asideCount b as := gallop (meetsAt (fun a => !before b a) as) as.length 0
  otherCount a bs := gallop (meetsAt (fun b => before b a) bs) bs.length 0
  asideFirst := true

/-- Merge from the back, with both runs reversed: the second run is aside. -/
def fromBack (before : α → α → Bool) : MergeOrder α where
  otherWins b a := before b a
  asideCount a bs :=
    bs.length - gallop (meetsAt (fun b => before b a) bs.reverse) bs.length (bs.length - 1)
  otherCount b as :=
    as.length - gallop (meetsAt (fun a => !before b a) as.reverse) as.length (as.length - 1)
  asideFirst := false

namespace Merging

/-- The number of items aside that go next in one stretch. -/
def asideStretch (order : MergeOrder α) (m : Merging α) : Nat :=
  match m.other with
  | b :: _ => order.asideCount b m.aside
  | [] => 0

/-- The number of items of the other run that go next in one stretch. -/
def otherStretch (order : MergeOrder α) (m : Merging α) : Nat :=
  match m.aside with
  | a :: _ => order.otherCount a m.other
  | [] => 0

/-- Move a stretch of each run, each with one item of the other run behind it; the
longer of the two stretches comes along. -/
def moveStretches (order : MergeOrder α) (m : Merging α) : Nat × Merging α :=
  if order.asideFirst then
    let first := m.asideStretch order
    let m := (m.moveAside first).moveOther 1
    let second := m.otherStretch order
    (max first second, (m.moveOther second).moveAside 1)
  else
    let first := m.otherStretch order
    let m := (m.moveOther first).moveAside 1
    let second := m.asideStretch order
    (max first second, (m.moveAside second).moveOther 1)

/-- Move the next item; true says that it is one of the other run. -/
def moveOne (order : MergeOrder α) (m : Merging α) : Bool × Merging α :=
  match m.aside, m.other with
  | a :: _, b :: _ =>
      if order.otherWins a b then (true, m.moveOther 1) else (false, m.moveAside 1)
  | _, _ => (false, m)

end Merging

/-! ## Changing between single items and stretches -/

/-- How a merge goes on. -/
inductive MergePace where
  /-- Item by item; which run won last, and how often in a row. -/
  | single (otherWon : Bool) (wins : Nat)
  /-- By stretches. -/
  | stretches

/-- Stretches that are shorter than this are not worth galloping. -/
def shortStretch : Nat := 7

/-- Go on merging for at most a number of moves.  The threshold says how often a
run must win in a row before stretches are moved; it falls while they are moved
and rises when that stops. -/
def continueMerge (order : MergeOrder α) :
    Nat → Nat → MergePace → Merging α → Nat × Merging α
  | 0, threshold, _, m => (threshold, m)
  | fuel + 1, threshold, pace, m =>
      if m.isDone then (threshold, m)
      else
        match pace with
        | .single otherWon wins =>
            let (other, moved) := m.moveOne order
            let wins := if other == otherWon then wins + 1 else 1
            if moved.isDone then (threshold, moved)
            else if threshold ≤ wins then
              continueMerge order fuel (threshold + 1) .stretches moved
            else continueMerge order fuel threshold (.single other wins) moved
        | .stretches =>
            let threshold := if 1 < threshold then threshold - 1 else threshold
            let (longest, moved) := m.moveStretches order
            if moved.isDone then (threshold, moved)
            else if shortStretch ≤ longest then
              continueMerge order fuel threshold .stretches moved
            else continueMerge order fuel (threshold + 1) (.single false 0) moved

/-- Merge two runs of which all items have to be compared. -/
def mergeOverlap (before : α → α → Bool) (threshold : Nat) (as bs : List α) :
    Nat × List α :=
  let fuel := as.length + bs.length
  if as.length ≤ bs.length then
    let start : Merging α := ⟨as, bs.drop 1, bs.take 1⟩
    let (threshold, m) :=
      continueMerge (fromFront before) fuel threshold (.single false 0) start
    (threshold, m.result)
  else
    let start : Merging α := ⟨bs.reverse, as.reverse.drop 1, as.reverse.take 1⟩
    let (threshold, m) :=
      continueMerge (fromBack before) fuel threshold (.single false 0) start
    (threshold, m.result.reverse)

/-- Merge two neighbouring runs.  Items of the first run that already stand before
all of the second one stay, and so do items at the end of the second one. -/
def mergeRuns (before : α → α → Bool) (threshold : Nat) (as bs : List α) : Nat × List α :=
  match bs with
  | [] => (threshold, as)
  | b :: _ =>
      let start := gallop (meetsAt (fun a => !before b a) as) as.length 0
      let front := as.take start
      let rest := as.drop start
      match rest.getLast? with
      | none => (threshold, as ++ bs)
      | some last =>
          let stop :=
            gallop (meetsAt (fun b => before b last) bs) bs.length (bs.length - 1)
          if stop == 0 then (threshold, as ++ bs)
          else
            let (threshold, merged) := mergeOverlap before threshold rest (bs.take stop)
            (threshold, front ++ merged ++ bs.drop stop)

/-! ## No item is lost -/

theorem Merging.moveAside_perm (count : Nat) (m : Merging α) :
    (m.moveAside count).result.Perm m.result := by
  unfold moveAside
  split
  · exact List.Perm.refl _
  · simp only [result, List.reverse_append, List.reverse_reverse, List.append_assoc]
    refine List.Perm.append_left _ ?_
    refine List.perm_append_comm_assoc _ _ _ |>.trans ?_
    rw [List.take_append_drop]

theorem Merging.moveOther_perm (count : Nat) (m : Merging α) :
    (m.moveOther count).result.Perm m.result := by
  unfold moveOther
  split
  · exact List.Perm.refl _
  · simp only [result, List.reverse_append, List.reverse_reverse, List.append_assoc]
    rw [← List.append_assoc (m.other.take count), List.take_append_drop]

theorem Merging.moveOne_perm (order : MergeOrder α) (m : Merging α) :
    (m.moveOne order).2.result.Perm m.result := by
  unfold moveOne
  split
  · split
    · exact m.moveOther_perm 1
    · exact m.moveAside_perm 1
  · exact List.Perm.refl _

theorem Merging.moveStretches_perm (order : MergeOrder α) (m : Merging α) :
    (m.moveStretches order).2.result.Perm m.result := by
  unfold moveStretches
  split
  · exact (moveAside_perm _ _).trans ((moveOther_perm _ _).trans
      ((moveOther_perm _ _).trans (moveAside_perm _ _)))
  · exact (moveOther_perm _ _).trans ((moveAside_perm _ _).trans
      ((moveAside_perm _ _).trans (moveOther_perm _ _)))

theorem continueMerge_perm (order : MergeOrder α) (fuel threshold : Nat) (pace : MergePace)
    (m : Merging α) : (continueMerge order fuel threshold pace m).2.result.Perm m.result := by
  induction fuel generalizing threshold pace m with
  | zero => exact List.Perm.refl _
  | succ fuel ih =>
      unfold continueMerge
      split
      · exact List.Perm.refl _
      · split
        · have h := m.moveOne_perm order
          simp only
          split
          · exact h
          · generalize (if (m.moveOne order).1 == _ then _ else _) = wins
            split <;> exact (ih _ _ _).trans h
        · have h := m.moveStretches_perm order
          simp only
          split
          · exact h
          · split <;> exact (ih _ _ _).trans h

theorem mergeOverlap_perm (before : α → α → Bool) (threshold : Nat) (as bs : List α) :
    (mergeOverlap before threshold as bs).2.Perm (as ++ bs) := by
  have hfront : ∀ xs : List α, (xs.take 1).reverse = xs.take 1 := by
    intro xs
    cases xs <;> rfl
  unfold mergeOverlap
  split
  · refine (continueMerge_perm _ _ _ _ _).trans ?_
    simp only [Merging.result, hfront]
    rw [← List.append_assoc, List.take_append_drop]
    exact List.perm_append_comm
  · refine (List.reverse_perm _).trans ((continueMerge_perm _ _ _ _ _).trans ?_)
    simp only [Merging.result, hfront]
    rw [← List.append_assoc, List.take_append_drop]
    exact (List.reverse_perm as).append (List.reverse_perm bs)

theorem mergeRuns_perm (before : α → α → Bool) (threshold : Nat) (as bs : List α) :
    (mergeRuns before threshold as bs).2.Perm (as ++ bs) := by
  unfold mergeRuns
  split
  · simp
  · simp only
    split
    · exact List.Perm.refl _
    · split
      · exact List.Perm.refl _
      · refine (((mergeOverlap_perm _ _ _ _).append_left _).append_right _).trans ?_
        rw [List.append_assoc, List.append_assoc, List.take_append_drop,
          ← List.append_assoc, List.take_append_drop]

end Collection
end PagedQuery
