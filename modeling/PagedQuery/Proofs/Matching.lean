import PagedQuery.Collection.Backend
import PagedQuery.Proofs.PageRuns

/-!
# Rows that match

As far as the evaluation of predicates on a row succeeds, it gives the truth of
all of them, although it looks only at those that it needs.  So the matching rows
are a filter of the rows, and queries on lists of rows are answered from it.

Main results:

- Theorem `holdsAll_isMet`: an evaluated conjunction holds when every member is met.
- Theorem `matching_filter`: the matching rows are those that meet all predicates.
- Theorem `find_matching`: finding rows looks for the matching ones.
- Theorem `findPage_sorted`: a page holds its slice of the sorted matching rows.
-/

namespace PagedQuery

namespace Predicate

/-! ## Evaluated predicates -/

/-- The row meets the predicate, and finding that out does not fail. -/
def isMet (predicate : Predicate) (row : Value) : Bool :=
  match predicate.holds row with
  | .ok met => met
  | .error _ => false

/-- All of the predicates can be evaluated on the row, as far as one has to look. -/
def EvaluatesAll (predicates : List Predicate) (row : Value) : Prop :=
  ∃ met, holdsAll predicates row = .ok met

/-- An evaluated predicate is met when it holds. -/
theorem isMet_of_holds {predicate : Predicate} {row : Value} {met : Bool}
    (h : predicate.holds row = .ok met) : predicate.isMet row = met := by
  simp only [isMet, h]

/-- An evaluated conjunction holds when every member is met. -/
theorem holdsAll_isMet {predicates : List Predicate} {row : Value} {met : Bool}
    (h : holdsAll predicates row = .ok met) : met = predicates.all (·.isMet row) := by
  induction predicates with
  | nil => simpa [holdsAll] using h.symm
  | cons predicate predicates ih =>
      rw [holdsAll] at h
      split at h
      · rename_i hfirst
        rw [List.all_cons, isMet_of_holds hfirst, ← ih h, Bool.true_and]
      · rename_i hfirst
        rw [List.all_cons, isMet_of_holds hfirst, Bool.false_and]
        simpa using h.symm
      · simp at h

/-- A conjunction can be evaluated when each of its members can. -/
theorem evaluatesAll_of_each {predicates : List Predicate} {row : Value}
    (h : ∀ predicate ∈ predicates, ∃ met, predicate.holds row = .ok met) :
    EvaluatesAll predicates row := by
  induction predicates with
  | nil => exact ⟨true, rfl⟩
  | cons predicate predicates ih =>
      obtain ⟨met, hmet⟩ := h predicate (by simp)
      cases met with
      | false => exact ⟨false, by rw [holdsAll, hmet]⟩
      | true =>
          obtain ⟨rest, hrest⟩ := ih fun other hother => h other (by simp [hother])
          exact ⟨rest, by rw [holdsAll, hmet, hrest]⟩

/-- A disjunction can be evaluated when each of its members can. -/
theorem holdsAny_of_each {predicates : List Predicate} {row : Value}
    (h : ∀ predicate ∈ predicates, ∃ met, predicate.holds row = .ok met) :
    ∃ met, holdsAny predicates row = .ok met := by
  induction predicates with
  | nil => exact ⟨false, rfl⟩
  | cons predicate predicates ih =>
      obtain ⟨met, hmet⟩ := h predicate (by simp)
      cases met with
      | true => exact ⟨true, by rw [holdsAny, hmet]⟩
      | false =>
          obtain ⟨rest, hrest⟩ := ih fun other hother => h other (by simp [hother])
          exact ⟨rest, by rw [holdsAny, hmet, hrest]⟩

/-- The rows that meet all predicates, in their order. -/
def select (predicates : List Predicate) (rows : List Value) : List Value :=
  rows.filter fun row => predicates.all (·.isMet row)

end Predicate

namespace Collection

open Predicate

/-- The matching rows are those that meet all predicates. -/
theorem matching_filter {predicates : List Predicate} {rows : List Value}
    (h : ∀ row ∈ rows, EvaluatesAll predicates row) :
    matching predicates rows = .ok (select predicates rows) := by
  induction rows with
  | nil => rfl
  | cons row rows ih =>
      obtain ⟨met, hmet⟩ := h row (by simp)
      have hrest := ih fun other hother => h other (by simp [hother])
      rw [matching, hmet]
      simp only [hrest, select, List.filter_cons, ← holdsAll_isMet hmet]

/-- Where the matching rows are found, all predicates can be evaluated. -/
theorem evaluatesAll_of_matching {predicates : List Predicate} {rows kept : List Value}
    (h : matching predicates rows = .ok kept) : ∀ row ∈ rows, EvaluatesAll predicates row := by
  induction rows generalizing kept with
  | nil => exact List.forall_mem_nil _
  | cons row rows ih =>
      rw [matching] at h
      split at h
      · simp at h
      · rename_i met hmet
        split at h
        · simp at h
        · rename_i rest hrest
          exact List.forall_mem_cons.2 ⟨⟨met, hmet⟩, ih hrest⟩

/-! ## Queries on lists of rows -/

/-- A record of an execution changes no rows. -/
theorem rows_note (s : Store) (e : Execution) (entity : String) :
    (s.note e).rows entity = s.rows entity := rfl

/-- Fetching rows answers the query from the rows of its entity, and all that changes
is the record of executions. -/
theorem fetchRows_run (q : Query) (w : World Store) :
    (fetchRows q).run w = ((w.store.rows q.entity).bind (answer q),
      w.updateStore (·.note ⟨.structured, q.entity, q.projection⟩)) := by
  simp only [fetchRows, note, rowsOf, Action.run_bind, Action.run_change, Action.run_state,
    Action.run_ofExcept, World.store_updateStore, rows_note]
  cases w.store.rows q.entity with
  | ok rows => rfl
  | error failure => rfl

variable {entity : String} {rows : List Value} {predicates : List Predicate}

/-- The store knows the entity, and has these rows of it. -/
def Keeps (entity : String) (rows : List Value) (s : Store) : Prop :=
  s.rows? entity = some rows

/-- Making a query keeps the rows. -/
theorem opens_keeps : OpensUnder backend (Keeps entity rows) := by
  intro w hw
  exact ⟨_, rfl, hw⟩

/-- A query on lists of rows is answered as its answer on the rows says. -/
theorem answers_of_answer (q : Query) {result : List Value}
    (h : answer q rows = .ok result) :
    Answers backend (Keeps q.entity rows) q (· = result) := by
  intro w hw
  have hrows : w.store.rows q.entity = .ok rows := by
    rw [Store.rows, hw]
  refine ⟨result, w.updateStore (·.note ⟨.structured, q.entity, q.projection⟩), ?_, rfl, hw⟩
  change (fetchRows q).run w = _
  rw [fetchRows_run, hrows, Except.bind, h]

/-- Finding rows ends as looking for the matching ones among the stored rows does. -/
theorem find_bind (w : World Store) :
    ((Repository.find ⟨backend, entity⟩ predicates).run w).1 =
      (w.store.rows entity).bind (matching predicates) := by
  have hplain : answer (Repository.plainQuery ⟨backend, entity⟩ predicates) =
      matching predicates := by
    funext rows
    simp only [answer, Repository.plainQuery, sortRows, Except.bind, cutRows_none]
    cases matching predicates rows with
    | ok kept => rfl
    | error failure => rfl
  rw [Repository.find, Repository.createQuery]
  simp only [Action.run_bind, Action.run_pure]
  change ((Repository.fetchAll ⟨backend, entity⟩
    (Repository.plainQuery ⟨backend, entity⟩ predicates)).run
      (w.updateStore fun s => { s with created := s.created + 1 })).1 = _
  rw [Repository.fetchAll_run _ rfl]
  change ((fetchRows _).run _).1 = _
  rw [fetchRows_run, hplain]
  rfl

/-- Where rows are stored, finding rows ends as looking for the matching ones does. -/
theorem find_matching {w : World Store} (hrows : w.store.rows? entity = some rows) :
    ((Repository.find ⟨backend, entity⟩ predicates).run w).1 = matching predicates rows := by
  rw [find_bind, Store.rows, hrows]
  rfl

/-- Counting gives the number of rows that meet all predicates. -/
theorem answers_count (h : ∀ row ∈ rows, EvaluatesAll predicates row) :
    Answers backend (Keeps entity rows)
      (Repository.plainQuery ⟨backend, entity⟩ predicates).countShape
      (· = Repository.countRows (select predicates rows).length) := by
  apply answers_of_answer (Repository.plainQuery ⟨backend, entity⟩ predicates).countShape
  simp [answer, Repository.plainQuery, Query.countShape, matching_filter h,
    Repository.countRows]

/-- The rows of a page are a slice of the sorted rows that meet all predicates. -/
theorem answers_page (h : ∀ row ∈ rows, EvaluatesAll predicates row) {keys : List SortKey}
    {sorted : List Value} (hsorted : sortRows keys (select predicates rows) = .ok sorted)
    (p : Page Value) :
    Answers backend (Keeps entity rows)
      (Repository.pageQuery ⟨backend, entity⟩ predicates keys p)
      (· = (sorted.drop (p.first - 1).toNat).take p.pageSize.toNat) := by
  apply answers_of_answer (Repository.pageQuery ⟨backend, entity⟩ predicates keys p)
  simp [answer, Repository.pageQuery, Repository.plainQuery, matching_filter h, hsorted,
    Except.bind, cutRows_whole]

/-- A page whose request is accepted holds its slice of the sorted rows that meet all
predicates, and when it counts, their number. -/
theorem findPage_sorted {w : World Store} (hrows : w.store.rows? entity = some rows)
    (heval : ∀ row ∈ rows, EvaluatesAll predicates row) {keys : List SortKey}
    {sorted : List Value} (hsorted : sortRows keys (select predicates rows) = .ok sorted)
    {p : Page Value} (hsize : 0 < p.pageSize) (hkeys : p.sorts = .ok keys) :
    ∃ w', (Repository.findPage ⟨backend, entity⟩ predicates).run ⟨w, p⟩ =
      (.ok (), ⟨w', { p with
        totalCount := if p.autoCount then (sorted.length : Int) else p.totalCount
        result := (sorted.drop (p.first - 1).toNat).take p.pageSize.toNat }⟩) := by
  obtain ⟨found, w', hrun, rfl, -⟩ := Repository.findPage_run ⟨backend, entity⟩
    (v := ⟨w, p⟩) opens_keeps hsize hkeys (fun _ => answers_count heval)
    (answers_page heval hsorted p) hrows
  refine ⟨w', ?_⟩
  rw [hrun, (sortRows_perm hsorted).length_eq]

end Collection

end PagedQuery
