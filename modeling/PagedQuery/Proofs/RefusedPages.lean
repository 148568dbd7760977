import PagedQuery.Proofs.Counting
import PagedQuery.Proofs.RefusedCalls
import PagedQuery.Relational.Directory

/-!
# Pages that are refused over a database

A database looks for the properties of a request when it builds a statement.  A counted page
has two statements, and the one that counts names no field to sort by.  So a field that the
table does not have is found only when the count has reached the page already.

Main results:

- Theorem `selection_refused_iff`: of a query whose rows were counted, only an unknown field
  to sort by is refused.
- Theorem `pageCall_refused`: a refused page keeps everything, unless its rows were counted
  before the fields to sort by were looked for.
-/

namespace PagedQuery

open PagedQuery.Action

/-! ## Calls for a page -/

/-- A call that fills the page at hand by predicates. -/
inductive PageCall where
  | findPage (predicates : List Predicate)
  | findPageBy (name : String) (value : Value) (m : MatchType)
  | findPageByFilters (filters : List PropertyFilter)
  | getAllPage

namespace PageCall

variable {σ ρ : Type}

/-- Fill the page at hand. -/
def perform (r : Repository σ ρ) : PageCall → Action (Visit σ) Unit
  | findPage ps => r.findPage ps
  | findPageBy name value m => r.findPageBy name value m
  | findPageByFilters fs => r.findPageByFilters fs
  | getAllPage => r.getAllPage

/-- The predicates that a call asks for. -/
def predicates : PageCall → Except Failure (List Predicate)
  | findPage ps => .ok ps
  | findPageBy name value m => (criterion name value m).map fun p => [p]
  | findPageByFilters fs => predicatesOf fs
  | getAllPage => .ok []

/-- A call fills the page by its predicates, when these are accepted. -/
theorem perform_eq (r : Repository σ ρ) (call : PageCall) :
    call.perform r = (ofExcept call.predicates >>= r.findPage) := by
  cases call with
  | findPage ps => rfl
  | findPageBy name value m =>
      rw [perform, predicates, Repository.findPageBy]
      cases criterion name value m <;> rfl
  | findPageByFilters fs => rfl
  | getAllPage => rfl

end PageCall

namespace Relational

/-! ## Statements that are refused -/

/-- Properties are refused when one of them is unknown. -/
theorem checkProperties_failsIff (s : Schema) (names : List String) :
    FailsIff (checkProperties s names) (∃ name ∈ names, s.column? name = none) := by
  induction names with
  | nil => exact (failsIff_ok ()).congr (by simp)
  | cons name names ih =>
      rw [checkProperties, Schema.column]
      cases hcolumn : s.column? name with
      | none => exact ⟨fun _ => ⟨_, rfl, rfl⟩, fun hgood => absurd ⟨name, by simp, hcolumn⟩ hgood⟩
      | some c => exact ih.congr (by simp [hcolumn])

/-- The statement of a query whose predicates are accepted is refused when a field to sort
by is unknown. -/
theorem ofQuery_failsIff {s : Schema} {q : Query} {cs : List (Condition Value)}
    {offset limit : Option Nat} (hprojection : q.projection = .rows)
    (hpredicates : Condition.ofPredicates s q.predicates = .ok cs)
    (hoffset : givenAmount Amount.truncated q.offset = .ok offset)
    (hlimit : givenAmount Amount.truncated q.limit = .ok limit) :
    FailsIff (Selection.ofQuery s q) (∃ key ∈ q.sorts, s.column? key.field = none) := by
  have hnames : checkProperties s (projectionNames q.projection) = .ok () := by
    rw [hprojection]
    rfl
  have hsorts := checkProperties_failsIff s (q.sorts.map (·.field))
  simp only [List.mem_map, exists_exists_and_eq_and] at hsorts
  constructor
  · intro hbad
    obtain ⟨failure, hfail, hinvalid⟩ := hsorts.fails hbad
    refine ⟨failure, ?_, hinvalid⟩
    simp only [Selection.ofQuery, hnames, hpredicates, hfail]
  · intro hgood
    obtain ⟨_, hpass⟩ := hsorts.passes hgood
    exact ⟨_, ofQuery_made hnames hpredicates hpass hoffset hlimit⟩

/-- Running a statement refuses no argument when its condition can be sent. -/
theorem runOn_not_isRefusal {t : Table} {s : Selection Value} {d : Condition Cell}
    (hsend : s.condition.send = .ok d) (db : Database) (message : String) :
    ¬IsRefusal (reporting message (runOn db t s)) := by
  obtain ⟨hkinds, -⟩ := runOn_fails (s := s) False.elim (fun _ => ⟨d, hsend⟩) db t
  cases hrun : runOn db t s with
  | ok selected => exact not_isRefusal_ok selected
  | error failure =>
      rw [reporting, isRefusal_error]
      rcases hkinds failure hrun with ⟨fault, rfl⟩ | rfl <;> exact Bool.false_ne_true

/-- Fetching is refused when what is selected is refused. -/
theorem fetchRows_isRefusal (q : Query) (w : World Database) :
    IsRefusal ((fetchRows q).run w).1 ↔ IsRefusal (selection w.store q) := by
  rw [(fetchRows_shown q w).1, isRefusal_map]

/-- A query whose rows were counted is refused exactly for an unknown field to sort by. -/
theorem selection_refused_iff {q : Query} {offset limit : Option Nat}
    (hprojection : q.projection = .rows)
    (hoffset : givenAmount Amount.truncated q.offset = .ok offset)
    (hlimit : givenAmount Amount.truncated q.limit = .ok limit) {w : World Database}
    {counted : List Value} (hcount : ((fetchRows q.countShape).run w).1 = .ok counted) :
    IsRefusal (selection w.store q) ↔
      ∃ t, w.store.table? q.entity = some t ∧
        ∃ key ∈ q.sorts, t.schema.column? key.field = none := by
  rw [(fetchRows_shown q.countShape w).1] at hcount
  obtain ⟨⟨t, selected⟩, hselection, -⟩ := map_eq_ok hcount
  obtain ⟨s, htable, hmade, -, -, hrun⟩ := selection_eq_ok.1 hselection
  obtain ⟨cs, _, _, hpredicates, -, -, rfl⟩ := ofQuery_ok hmade
  obtain ⟨sent, -, hsent, -⟩ := Selection.run_eq_ok hrun
  obtain ⟨d, hsend, -⟩ := Selection.send_eq_ok hsent
  change w.store.table q.entity = .ok t at htable
  have hfound : w.store.table? q.entity = some t := by
    unfold Database.table at htable
    split at htable
    · rename_i hfound
      exact hfound.trans (congrArg some (Except.ok.inj htable))
    · cases htable
  have hfails := ofQuery_failsIff (s := t.schema) hprojection hpredicates hoffset hlimit
  have hunknown : (∃ t, w.store.table? q.entity = some t ∧
      ∃ key ∈ q.sorts, t.schema.column? key.field = none) ↔
      ∃ key ∈ q.sorts, t.schema.column? key.field = none := by
    simp [hfound]
  rw [hunknown, selection_found htable]
  constructor
  · intro hrefusal
    by_contra hgood
    obtain ⟨other, hother⟩ := hfails.passes hgood
    obtain ⟨others, first, count, hothers, -, -, rfl⟩ := ofQuery_ok hother
    have hsame : others = cs := Except.ok.inj (hothers.symm.trans hpredicates)
    subst hsame
    rw [hother] at hrefusal
    exact runOn_not_isRefusal (s := ⟨t.schema, q.projection, .foldConj others, q.sorts, first,
      count⟩) hsend _ _ (isRefusal_map.1 hrefusal)
  · intro hbad
    obtain ⟨failure, hfail, hinvalid⟩ := hfails.fails hbad
    rw [hfail]
    exact ⟨failure, rfl, hinvalid⟩

/-! ## Filling a page -/

variable {entity : String} {ps : List Predicate} {v : Visit Database} {n : Int}

/-- Putting rows on a page is refused when fetching them is, and then the page is as it
was. -/
theorem fillRows_isRefusal (entity : String) (v : Visit Database) {q : Query}
    (hq : q.transform = none) :
    (IsRefusal ((Repository.fillRows ⟨backend, entity⟩ q).run v).1 ↔
      IsRefusal (selection v.world.store q)) ∧
    (IsRefusal ((Repository.fillRows ⟨backend, entity⟩ q).run v).1 →
      ((Repository.fillRows ⟨backend, entity⟩ q).run v).2.page = v.page) := by
  rw [← fetchRows_isRefusal]
  simp only [Repository.fillRows, run_bind, Repository.outside_run,
    Repository.fetchAll_run _ hq]
  change (_ ↔ IsRefusal ((backend.rows q).run v.world).1) ∧ _
  rcases (backend.rows q).run v.world with ⟨failure | rows, w⟩
  · simp
  · exact ⟨iff_of_false (not_isRefusal_ok _) (not_isRefusal_ok _),
      fun hrefusal => absurd hrefusal (not_isRefusal_ok _)⟩

/-- A page without room for a row, or with a bad sort request, is left as it is. -/
theorem findPage_unaccepted
    (h : v.page.pageSize ≤ 0 ∨ ∃ failure, v.page.sorts = .error failure) :
    ((Repository.findPage ⟨backend, entity⟩ ps).run v).2 = v := by
  simp only [Repository.findPage, run_bind, run_state, run_ofExcept]
  cases hcheck : checkPageSize v.page with
  | error failure => rfl
  | ok _ =>
      have hsize := checkPageSize_ok hcheck
      rcases h with hsmall | ⟨failure, hsorts⟩
      · omega
      · rw [hsorts]

/-- What becomes of a page whose request is accepted and whose rows were counted: it gets
the number of rows, and its rows are refused exactly for an unknown field to sort by. -/
theorem countAndFill_counted (keys : List SortKey) (hauto : v.page.autoCount = true)
    (hcounted : ((Repository.countResult ⟨backend, entity⟩
      { entity := entity, predicates := ps }).run v.world).1 = .ok n) :
    (IsRefusal ((Repository.countAndFill ⟨backend, entity⟩ ps keys v.page).run v).1 ↔
      ∃ t, v.world.store.table? entity = some t ∧
        ∃ key ∈ keys, t.schema.column? key.field = none) ∧
    (IsRefusal ((Repository.countAndFill ⟨backend, entity⟩ ps keys v.page).run v).1 →
      ((Repository.countAndFill ⟨backend, entity⟩ ps keys v.page).run v).2.page =
        { v.page with totalCount := n }) := by
  let r : Repository Database Instance := ⟨backend, entity⟩
  let q := r.pageQuery ps keys v.page
  let counting := (fetchRows q.countShape).run v.world
  have hrun : (r.countResult (r.plainQuery ps)).run v.world =
      (counting.1.bind fun rows => (Value.scalarOf rows).toCount, counting.2) :=
    r.countResult_run (r.plainQuery ps) v.world
  change ((r.countResult (r.plainQuery ps)).run v.world).1 = _ at hcounted
  rw [hrun] at hcounted
  obtain ⟨counted, hrows, -⟩ := bind_eq_ok hcounted
  have hcount : (r.countResult (r.plainQuery ps)).run v.world = (.ok n, counting.2) :=
    hrun.trans (Prod.ext hcounted rfl)
  obtain ⟨w, hnote, hstore⟩ := r.noteCount_run n { v with world := counting.2 }
  have hsame : w.store = v.world.store := hstore.trans (fetchRows_countShape_store q v.world)
  have hfill : (r.countAndFill ps keys v.page).run v =
      (r.fillRows q).run ⟨w, { v.page with totalCount := n }⟩ := by
    simp only [Repository.countAndFill, hauto, if_true, run_bind, Repository.outside_run,
      hcount, hnote]
    rfl
  have hunknown := selection_refused_iff (q := q) rfl rfl rfl hrows
  have hq : q.transform = none := rfl
  obtain ⟨hiff, hpage⟩ :=
    fillRows_isRefusal entity ⟨w, { v.page with totalCount := n }⟩ hq
  rw [hsame] at hiff
  change (IsRefusal ((r.countAndFill ps keys v.page).run v).1 ↔ _) ∧ (_ → _)
  rw [hfill]
  exact ⟨hiff.trans hunknown, hpage⟩

/-- A request whose rows are not counted leaves the page alone when it is refused. -/
theorem countAndFill_uncounted (keys : List SortKey)
    (h : v.page.autoCount = false ∨ ∃ failure, ((Repository.countResult ⟨backend, entity⟩
      { entity := entity, predicates := ps }).run v.world).1 = .error failure)
    (hrefusal :
      IsRefusal ((Repository.countAndFill ⟨backend, entity⟩ ps keys v.page).run v).1) :
    ((Repository.countAndFill ⟨backend, entity⟩ ps keys v.page).run v).2.page = v.page := by
  cases hauto : v.page.autoCount with
  | false =>
      have hfill : (Repository.countAndFill ⟨backend, entity⟩ ps keys v.page).run v =
          (Repository.fillRows ⟨backend, entity⟩
            (Repository.pageQuery ⟨backend, entity⟩ ps keys v.page)).run v := by
        rw [Repository.countAndFill, hauto]
        rfl
      rw [hfill] at hrefusal ⊢
      exact (fillRows_isRefusal entity v rfl).2 hrefusal
  | true =>
      obtain ⟨failure, hfailed⟩ := h.resolve_left (by simp [hauto])
      simp only [Repository.countAndFill, hauto, if_true, run_bind, Repository.outside_run]
      change ((Repository.countResult ⟨backend, entity⟩
        (Repository.plainQuery ⟨backend, entity⟩ ps)).run v.world).1 = _ at hfailed
      rw [hfailed]

/-- The page of a request is counted, and its rows are refused afterwards: the request has
a field to sort by that the table does not have, and nothing else is wrong with it. -/
structure IsRefusedLate (entity : String) (ps : List Predicate) (v : Visit Database)
    (n : Int) : Prop where
  auto : v.page.autoCount = true
  room : 0 < v.page.pageSize
  counted : ((Repository.countResult ⟨backend, entity⟩
    { entity := entity, predicates := ps }).run v.world).1 = .ok n
  unknown : ∃ keys, v.page.sorts = .ok keys ∧
    ∃ t, v.world.store.table? entity = some t ∧
      ∃ key ∈ keys, t.schema.column? key.field = none

/-- A page that is refused late has the number of rows on it. -/
theorem findPage_refusedLate (h : IsRefusedLate entity ps v n) :
    IsRefusal ((Repository.findPage ⟨backend, entity⟩ ps).run v).1 ∧
      ((Repository.findPage ⟨backend, entity⟩ ps).run v).2.page =
        { v.page with totalCount := n } := by
  obtain ⟨keys, hkeys, hunknown⟩ := h.unknown
  obtain ⟨hiff, hpage⟩ := countAndFill_counted keys h.auto h.counted
  rw [Repository.findPage_accepted _ h.room hkeys rfl]
  exact ⟨hiff.2 hunknown, hpage (hiff.2 hunknown)⟩

/-- A page that is refused, but not late, is left as it is. -/
theorem findPage_refusedEarly (hearly : ∀ n, ¬IsRefusedLate entity ps v n)
    (hrefusal : IsRefusal ((Repository.findPage ⟨backend, entity⟩ ps).run v).1) :
    ((Repository.findPage ⟨backend, entity⟩ ps).run v).2.page = v.page := by
  by_cases hsize : 0 < v.page.pageSize
  · cases hkeys : v.page.sorts with
    | error failure => rw [findPage_unaccepted (.inr ⟨failure, hkeys⟩)]
    | ok keys =>
        rw [Repository.findPage_accepted _ hsize hkeys rfl] at hrefusal ⊢
        cases hcounted : ((Repository.countResult ⟨backend, entity⟩
            { entity := entity, predicates := ps }).run v.world).1 with
        | error failure => exact countAndFill_uncounted keys (.inr ⟨failure, hcounted⟩) hrefusal
        | ok n =>
            cases hauto : v.page.autoCount with
            | false => exact countAndFill_uncounted keys (.inl hauto) hrefusal
            | true =>
                have hunknown := (countAndFill_counted keys hauto hcounted).1.1 hrefusal
                exact absurd ⟨hauto, hsize, hcounted, keys, hkeys, hunknown⟩ (hearly n)
  · rw [findPage_unaccepted (.inl (Int.not_lt.1 hsize))]

/-- What becomes of the page of a call that is refused.  A call whose rows are counted before
an unknown field to sort by is found puts their number on the page.  Every other refused
call leaves the page as it is, so that a refused page is as before exactly when such a
count is the number that was on it; the rows on the page stay in any case. -/
theorem pageCall_refused (call : PageCall) :
    (∀ ps n, call.predicates = .ok ps → IsRefusedLate entity ps v n →
      IsRefusal ((call.perform ⟨backend, entity⟩).run v).1 ∧
        ((call.perform ⟨backend, entity⟩).run v).2.page = { v.page with totalCount := n }) ∧
    (IsRefusal ((call.perform ⟨backend, entity⟩).run v).1 →
      ((call.perform ⟨backend, entity⟩).run v).2.page.result = v.page.result ∧
      (((call.perform ⟨backend, entity⟩).run v).2.page = v.page ↔
        ∀ ps n, call.predicates = .ok ps → IsRefusedLate entity ps v n →
          n = v.page.totalCount)) := by
  rw [call.perform_eq]
  cases hpredicates : call.predicates with
  | error failure =>
      refine ⟨fun ps n h => (nomatch h), fun _ => ⟨rfl, fun _ ps n h => (nomatch h), fun _ => rfl⟩⟩
  | ok ps =>
      rw [ofExcept_ok_bind]
      constructor
      · rintro _ n ⟨⟩ hlate
        exact findPage_refusedLate hlate
      · intro hrefusal
        by_cases hlate : ∃ n, IsRefusedLate entity ps v n
        · obtain ⟨n, hlate⟩ := hlate
          rw [(findPage_refusedLate hlate).2]
          refine ⟨rfl, ?_, ?_⟩
          · rintro hsame _ m ⟨⟩ hother
            have hcounts : m = n := Except.ok.inj (hother.counted.symm.trans hlate.counted)
            rw [hcounts, ← hsame]
          · intro hcounts
            rw [hcounts ps n rfl hlate]
        · have hearly := not_exists.1 hlate
          rw [findPage_refusedEarly hearly hrefusal]
          refine ⟨rfl, fun _ => ?_, fun _ => rfl⟩
          rintro _ n ⟨⟩ hother
          exact absurd hother (hearly n)

/-- A database with one user. -/
def oneUser : World Database :=
  ⟨directory [[("id", .int 1), ("name", .text "ann"), ("login", .text "ann")]] [] false, []⟩

/-- A page that is not filled yet, to be sorted by a field that users do not have. -/
def unknownOrder : Page Value where
  pageNo := 1
  pageSize := 10
  orderBy := some "nope"
  order := some [.asc]
  autoCount := true
  result := []
  totalCount := -1
  one_le_pageNo := Int.one_pos

/-- The only user is counted before the unknown field is looked for. -/
theorem isRefusedLate_oneUser : IsRefusedLate "User" [] ⟨oneUser, unknownOrder⟩ 1 where
  auto := rfl
  room := by decide
  counted := rfl
  unknown := ⟨[⟨"nope", .asc⟩], rfl, _, rfl, _, List.mem_singleton_self _, rfl⟩

/-- All users by an unknown field are refused, and so is a request without room for a row,
which leaves the page alone. -/
theorem pageCall_refused_oneUser :
    IsRefusal ((PageCall.getAllPage.perform ⟨backend, "User"⟩).run ⟨oneUser, unknownOrder⟩).1 ∧
      ((PageCall.getAllPage.perform ⟨backend, "User"⟩).run
        ⟨oneUser, { unknownOrder with pageSize := 0 }⟩).2.page =
          { unknownOrder with pageSize := 0 } := by
  refine ⟨((pageCall_refused .getAllPage).1 [] 1 rfl isRefusedLate_oneUser).1, ?_⟩
  apply ((pageCall_refused .getAllPage).2 ?_).2.2
  · intro ps n _ hlate
    exact absurd hlate.room (by decide)
  · exact ⟨_, rfl, rfl⟩

/-- All users by an unknown field are refused, but their number is on the page then. -/
theorem getAllPage_unknownOrder_counted :
    IsRefusal ((Repository.getAllPage ⟨backend, "User"⟩).run ⟨oneUser, unknownOrder⟩).1 ∧
      unknownOrder.totalCount = -1 ∧
      ((Repository.getAllPage ⟨backend, "User"⟩).run ⟨oneUser, unknownOrder⟩).2.page.totalCount =
        1 :=
  ⟨⟨_, rfl, rfl⟩, rfl, rfl⟩

end Relational

end PagedQuery
