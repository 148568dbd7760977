import PagedQuery.Repository.Paging

/-!
# Runs of queries and pages

What a backend makes of a query is stated as a contract: from every store that
meets a condition, the query is answered, or it is refused, and the store meets
the condition again.  Finding rows and filling a page follow from the contracts of
the queries that they ask, whatever the backend.

Main results:

- Theorem `find_run`: rows are found as the backend answers the query.
- Theorem `findPage_run`: a page is filled with the answers to its two queries.
- Theorem `findPage_refused` and Theorem `findPage_uncounted`: a page whose rows or whose
  count are refused keeps its rows.
-/

namespace PagedQuery

/-! ## Running actions -/

/-- A computation that goes on has a value where its first part has one. -/
theorem bind_eq_ok {α β : Type} {x : Except Failure α} {f : α → Except Failure β} {b : β}
    (h : x.bind f = .ok b) : ∃ a, x = .ok a ∧ f a = .ok b := by
  cases x with
  | error failure => cases h
  | ok a => exact ⟨a, rfl, h⟩

/-- What is made of a value is there where the value is. -/
theorem map_eq_ok {α β : Type} {x : Except Failure α} {f : α → β} {b : β}
    (h : x.map f = .ok b) : ∃ a, x = .ok a ∧ f a = b := by
  cases x with
  | error failure => cases h
  | ok a => exact ⟨a, rfl, Except.ok.inj h⟩

/-- What is made of a value fails with the failure of the value. -/
theorem map_eq_error {α β : Type} {x : Except Failure α} {f : α → β} {failure : Failure} :
    x.map f = .error failure ↔ x = .error failure := by
  cases x <;> simp [Except.map]

/-- Two computations, one after the other, fail with the failure of the first one that
fails. -/
theorem bind_eq_error {α β : Type} {x : Except Failure α} {y : Except Failure β}
    {failure : Failure} : (x.bind fun _ => y) = .error failure ↔
      x = .error failure ∨ (∃ a, x = .ok a) ∧ y = .error failure := by
  cases x <;> simp [Except.bind]

/-- An action followed by another one goes on after a success only. -/
theorem Action.run_bind {ω α β : Type} (x : Action ω α) (f : α → Action ω β) (w : ω) :
    (x >>= f).run w =
      match x.run w with
      | (.ok a, w) => (f a).run w
      | (.error failure, w) => (.error failure, w) := rfl

/-- A value that is there already is used at once. -/
theorem Action.ofExcept_ok_bind {ω α β : Type} (a : α) (f : α → Action ω β) :
    (Action.ofExcept (.ok a) >>= f) = f a := rfl

/-- Holding on to the end of an action always succeeds. -/
@[simp]
theorem Action.run_outcome {ω α : Type} (x : Action ω α) (w : ω) :
    x.outcome.run w = (.ok (x.run w).1, (x.run w).2) := rfl

/-- What ends with a value has gone through a value of its first part. -/
theorem Action.run_bind_eq_ok {ω α β : Type} {x : Action ω α} {f : α → Action ω β}
    {w w' : ω} {b : β} (h : (x >>= f).run w = (.ok b, w')) :
    ∃ a w₁, x.run w = (.ok a, w₁) ∧ (f a).run w₁ = (.ok b, w') := by
  rw [Action.run_bind] at h
  rcases hrun : x.run w with ⟨failure | a, w₁⟩
  · rw [hrun] at h
    cases h
  · rw [hrun] at h
    exact ⟨a, w₁, rfl, h⟩

/-- What ends with a value has passed its first check. -/
theorem Action.ofExcept_bind_eq_ok {ω α β : Type} {x : Except Failure α}
    {f : α → Action ω β} {w w' : ω} {b : β}
    (h : (Action.ofExcept x >>= f).run w = (.ok b, w')) :
    ∃ a, x = .ok a ∧ (f a).run w = (.ok b, w') := by
  obtain ⟨a, w₁, hx, h⟩ := Action.run_bind_eq_ok h
  rw [Action.run_ofExcept, Prod.mk.injEq] at hx
  obtain ⟨hx, rfl⟩ := hx
  exact ⟨a, hx, h⟩

/-! ## Contracts of queries -/

section

variable {σ ρ : Type}

/-- From every store that meets a condition, the query is answered with rows as
wanted, and the store meets the condition again. -/
def Answers (b : Backend σ ρ) (store : σ → Prop) (q : Query) (wanted : List Value → Prop) :
    Prop :=
  ∀ w : World σ, store w.store →
    ∃ rows w', (b.rows q).run w = (.ok rows, w') ∧ wanted rows ∧ store w'.store

/-- From every store that meets a condition, the query ends with a failure as expected,
and the store meets the condition again. -/
def Refuses (b : Backend σ ρ) (store : σ → Prop) (q : Query) (expected : Failure → Prop) :
    Prop :=
  ∀ w : World σ, store w.store →
    ∃ failure w', (b.rows q).run w = (.error failure, w') ∧ expected failure ∧ store w'.store

/-- Making a query keeps a condition of the store. -/
def OpensUnder (b : Backend σ ρ) (store : σ → Prop) : Prop :=
  ∀ w : World σ, store w.store →
    ∃ w', b.openQuery.run w = (.ok (), w') ∧ store w'.store

namespace Repository

variable (r : Repository σ ρ) {store : σ → Prop}

/-- The query for the rows that meet predicates. -/
def plainQuery (predicates : List Predicate) : Query :=
  { entity := r.entity, predicates := predicates }

/-- The query for the rows of a page. -/
def pageQuery (predicates : List Predicate) (keys : List SortKey) (p : Page Value) : Query :=
  { r.plainQuery predicates with
    sorts := keys
    offset := some (.whole (p.first - 1).toNat)
    limit := some (.whole p.pageSize.toNat) }

/-- A query without a transform is answered as the backend answers it. -/
theorem fetchAll_run {q : Query} (hq : q.transform = none) (w : World σ) :
    (r.fetchAll q).run w = (r.backend.rows q).run w := by
  simp only [fetchAll, Action.run_bind, Query.transformed, hq, Action.run_ofExcept]
  rcases (r.backend.rows q).run w with ⟨⟨⟩ | ⟨⟩, w'⟩ <;> rfl

/-- Rows are found as the backend answers the query. -/
theorem find_run {predicates : List Predicate} {wanted : List Value → Prop}
    (hopen : OpensUnder r.backend store)
    (hrows : Answers r.backend store (r.plainQuery predicates) wanted)
    {w : World σ} (hw : store w.store) :
    ∃ rows w', (r.find predicates).run w = (.ok rows, w') ∧ wanted rows ∧ store w'.store := by
  obtain ⟨w₁, hrun, hw₁⟩ := hopen w hw
  obtain ⟨rows, w₂, hrun₂, hwanted, hw₂⟩ := hrows w₁ hw₁
  refine ⟨rows, w₂, ?_, hwanted, hw₂⟩
  simp only [find, createQuery, Action.run_bind, hrun, Action.run_pure]
  rw [fetchAll_run r rfl]
  exact hrun₂

/-- Rows that the backend refuses are not found. -/
theorem find_refused {predicates : List Predicate} {expected : Failure → Prop}
    (hopen : OpensUnder r.backend store)
    (hrows : Refuses r.backend store (r.plainQuery predicates) expected)
    {w : World σ} (hw : store w.store) :
    ∃ failure, ((r.find predicates).run w).1 = .error failure ∧ expected failure := by
  obtain ⟨w₁, hrun, hw₁⟩ := hopen w hw
  obtain ⟨failure, w₂, hrun₂, hexpected, -⟩ := hrows w₁ hw₁
  refine ⟨failure, ?_, hexpected⟩
  simp only [find, createQuery, Action.run_bind, hrun, Action.run_pure]
  rw [fetchAll_run r rfl]
  exact congrArg Prod.fst hrun₂

/-! ## Counting -/

/-- The rows of a count. -/
def countRows (n : Nat) : List Value := [.tuple [.int n]]

/-- Counting gives the number that the backend answers, and its failure otherwise. -/
theorem countResult_run (q : Query) (w : World σ) :
    (r.countResult q).run w =
      (((r.backend.rows q.countShape).run w).1.bind fun rows => (Value.scalarOf rows).toCount,
        ((r.backend.rows q.countShape).run w).2) := by
  simp only [countResult, count, fetchScalar, Action.run_bind, Action.run_outcome,
    Action.run_pure, Action.run_ofExcept]
  rcases (r.backend.rows q.countShape).run w with ⟨⟨⟩ | ⟨⟩, w'⟩ <;> rfl

/-- A count that the backend answers is that answer. -/
theorem countResult_answered {q : Query} {n : Nat}
    (hcount : Answers r.backend store q.countShape (· = countRows n))
    {w : World σ} (hw : store w.store) :
    ∃ w', (r.countResult q).run w = (.ok (n : Int), w') ∧ store w'.store := by
  obtain ⟨rows, w', hrun, rfl, hw'⟩ := hcount w hw
  refine ⟨w', ?_, hw'⟩
  rw [countResult_run, hrun]
  rfl

/-- A count that the backend refuses fails alike. -/
theorem countResult_refused {q : Query} {expected : Failure → Prop}
    (hcount : Refuses r.backend store q.countShape expected)
    {w : World σ} (hw : store w.store) :
    ∃ failure w', (r.countResult q).run w = (.error failure, w') ∧ expected failure := by
  obtain ⟨failure, w', hrun, hexpected, -⟩ := hcount w hw
  refine ⟨failure, w', ?_, hexpected⟩
  rw [countResult_run, hrun]
  rfl

/-! ## Filling a page -/

/-- Sort keys are added behind those that are there. -/
theorem foldl_addSort (keys : List SortKey) (q : Query) :
    keys.foldl Query.addSort q = { q with sorts := q.sorts ++ keys } := by
  induction keys generalizing q with
  | nil => simp
  | cons key keys ih => simp [ih, Query.addSort]

/-- No row of a page stands before the first row. -/
theorem first_sub_one_nonneg {p : Page Value} (hsize : 0 < p.pageSize) : 0 ≤ p.first - 1 := by
  have hno := p.one_le_pageNo
  have hproduct : 0 ≤ (p.pageNo - 1) * p.pageSize :=
    Int.mul_nonneg (by omega) (by omega)
  rw [Page.first]
  omega

/-- The rows before a page with room for a row can be left out. -/
theorem setOffset_first {p : Page Value} (hsize : 0 < p.pageSize) (q : Query) :
    q.setOffset (.int (p.first - 1)) =
      .ok { q with offset := some (.whole (p.first - 1).toNat) } := by
  rw [Query.setOffset, Amount.ofValue?_int "offset" (first_sub_one_nonneg hsize)]
  rfl

/-- The rows of a page with room for a row can be kept. -/
theorem setLimit_pageSize {p : Page Value} (hsize : 0 < p.pageSize) (q : Query) :
    q.setLimit (.int p.pageSize) =
      .ok { q with limit := some (.whole p.pageSize.toNat) } := by
  rw [Query.setLimit, Amount.ofValue?_int "limit" (Int.le_of_lt hsize)]
  rfl

/-- The world of a visit goes on as an action on it says. -/
theorem outside_run {α : Type} (x : Action (World σ) α) (v : Visit σ) :
    (outside x).run v = ((x.run v.world).1, { v with world := (x.run v.world).2 }) := rfl

/-- What ends with a value during a visit has gone through a value in the world. -/
theorem outside_bind_eq_ok {α β : Type} {x : Action (World σ) α} {f : α → Action (Visit σ) β}
    {v v' : Visit σ} {b : β} (h : (outside x >>= f).run v = (.ok b, v')) :
    ∃ a w, x.run v.world = (.ok a, w) ∧ (f a).run ⟨w, v.page⟩ = (.ok b, v') := by
  obtain ⟨a, v₁, hx, h⟩ := Action.run_bind_eq_ok h
  rw [outside_run, Prod.mk.injEq] at hx
  obtain ⟨hx, rfl⟩ := hx
  exact ⟨a, _, Prod.ext hx rfl, h⟩

/-- Noting a count changes the number on the page, and nothing in the store. -/
theorem noteCount_run (n : Int) (v : Visit σ) :
    ∃ w', (r.noteCount n).run v = (.ok (), ⟨w', { v.page with totalCount := n }⟩) ∧
      w'.store = v.world.store :=
  ⟨_, rfl, rfl⟩

/-- Noting rows puts them on the page, and changes nothing in the store. -/
theorem noteRows_run (rows : List Value) (v : Visit σ) :
    ∃ w', (r.noteRows rows).run v = (.ok (), ⟨w', { v.page with result := rows }⟩) ∧
      w'.store = v.world.store :=
  ⟨_, rfl, rfl⟩

/-- What is left of filling a page when the matching rows are counted: fetch the
rows of a query and put them on the page. -/
def fillRows (q : Query) : Action (Visit σ) Unit := do
  r.noteRows (← outside (r.fetchAll q))

/-- What is left of filling a page when its request is accepted. -/
def countAndFill (predicates : List Predicate) (keys : List SortKey) (p : Page Value) :
    Action (Visit σ) Unit := do
  if p.autoCount then
    r.noteCount (← outside (r.countResult (r.plainQuery predicates)))
  r.fillRows (r.pageQuery predicates keys p)

/-- When the request of a page is accepted, a query is made, and the page is
filled. -/
theorem findPage_accepted {predicates : List Predicate} {keys : List SortKey} {v : Visit σ}
    (hsize : 0 < v.page.pageSize) (hkeys : v.page.sorts = .ok keys) {w : World σ}
    (hopen : r.backend.openQuery.run v.world = (.ok (), w)) :
    (r.findPage predicates).run v =
      (r.countAndFill predicates keys v.page).run { v with world := w } := by
  have hcheck : checkPageSize v.page = .ok () := by
    simp [checkPageSize, Int.not_le.2 hsize]
  simp only [findPage, countAndFill, fillRows, createQuery, Action.run_bind, Action.run_state,
    Action.run_ofExcept, hcheck, hkeys, outside_run, hopen, Action.run_pure,
    setOffset_first hsize, setLimit_pageSize hsize, foldl_addSort]
  cases v.page.autoCount with
  | false => rfl
  | true =>
      simp only [if_true, Action.run_bind, outside_run, plainQuery]
      rcases (r.countResult { entity := r.entity, predicates := predicates }).run w with
        ⟨failure | total, w'⟩
      · rfl
      · rfl

/-- Rows that the backend answers are put on the page. -/
theorem fillRows_answered {q : Query} (hq : q.transform = none) {wanted : List Value → Prop}
    (hrows : Answers r.backend store q wanted) {v : Visit σ} (hv : store v.world.store) :
    ∃ rows w', (r.fillRows q).run v = (.ok (), ⟨w', { v.page with result := rows }⟩) ∧
      wanted rows ∧ store w'.store := by
  obtain ⟨rows, w₁, hrun, hwanted, hw₁⟩ := hrows v.world hv
  obtain ⟨w₂, hnote, hw₂⟩ := r.noteRows_run rows { v with world := w₁ }
  refine ⟨rows, w₂, ?_, hwanted, hw₂ ▸ hw₁⟩
  simp only [fillRows, Action.run_bind, outside_run, fetchAll_run r hq, hrun]
  exact hnote

/-- Rows that the backend refuses leave the page alone. -/
theorem fillRows_refused {q : Query} (hq : q.transform = none) {expected : Failure → Prop}
    (hrows : Refuses r.backend store q expected) {v : Visit σ} (hv : store v.world.store) :
    ∃ failure w', (r.fillRows q).run v = (.error failure, ⟨w', v.page⟩) ∧
      expected failure := by
  obtain ⟨failure, w₁, hrun, hexpected, -⟩ := hrows v.world hv
  refine ⟨failure, w₁, ?_, hexpected⟩
  simp only [fillRows, Action.run_bind, outside_run, fetchAll_run r hq, hrun]

/-- A page whose request is accepted is filled with the answers to its two queries. -/
theorem findPage_run {predicates : List Predicate} {keys : List SortKey} {n : Nat}
    {wanted : List Value → Prop} (hopen : OpensUnder r.backend store) {v : Visit σ}
    (hsize : 0 < v.page.pageSize) (hkeys : v.page.sorts = .ok keys)
    (hcount : v.page.autoCount = true →
      Answers r.backend store (r.plainQuery predicates).countShape (· = countRows n))
    (hrows : Answers r.backend store (r.pageQuery predicates keys v.page) wanted)
    (hv : store v.world.store) :
    ∃ rows w', (r.findPage predicates).run v = (.ok (), ⟨w', { v.page with
        totalCount := if v.page.autoCount then (n : Int) else v.page.totalCount
        result := rows }⟩) ∧ wanted rows ∧ store w'.store := by
  obtain ⟨w₁, hrun₁, hw₁⟩ := hopen v.world hv
  rw [r.findPage_accepted hsize hkeys hrun₁, countAndFill]
  cases hauto : v.page.autoCount with
  | false =>
      obtain ⟨rows, w₂, hrun₂, hwanted, hw₂⟩ :=
        r.fillRows_answered rfl hrows (v := { v with world := w₁ }) hw₁
      exact ⟨rows, w₂, hrun₂, hwanted, hw₂⟩
  | true =>
      obtain ⟨w₂, hrun₂, hw₂⟩ := r.countResult_answered (hcount hauto) hw₁
      obtain ⟨w₃, hnote, hw₃⟩ := r.noteCount_run (n : Int) { v with world := w₂ }
      obtain ⟨rows, w₄, hrun₄, hwanted, hw₄⟩ := r.fillRows_answered rfl hrows
        (v := ⟨w₃, { v.page with totalCount := n }⟩) (hw₃ ▸ hw₂)
      refine ⟨rows, w₄, ?_, hwanted, hw₄⟩
      simp only [if_true, Action.run_bind, outside_run, hrun₂, hnote]
      exact hrun₄

/-- A page whose count is refused keeps the rows that it had. -/
theorem findPage_uncounted {predicates : List Predicate} {keys : List SortKey}
    {expected : Failure → Prop} (hopen : OpensUnder r.backend store) {v : Visit σ}
    (hsize : 0 < v.page.pageSize) (hkeys : v.page.sorts = .ok keys)
    (hauto : v.page.autoCount = true)
    (hcount : Refuses r.backend store (r.plainQuery predicates).countShape expected)
    (hv : store v.world.store) :
    ∃ failure, ((r.findPage predicates).run v).1 = .error failure ∧ expected failure ∧
      ((r.findPage predicates).run v).2.page.result = v.page.result := by
  obtain ⟨w₁, hrun₁, hw₁⟩ := hopen v.world hv
  obtain ⟨failure, w₂, hrun₂, hexpected⟩ := r.countResult_refused hcount hw₁
  refine ⟨failure, ?_, hexpected, ?_⟩
  all_goals
    rw [r.findPage_accepted hsize hkeys hrun₁, countAndFill, hauto]
    simp only [if_true, Action.run_bind, outside_run, hrun₂]

/-- A page whose rows are refused keeps the rows that it had. -/
theorem findPage_refused {predicates : List Predicate} {keys : List SortKey} {n : Nat}
    {expected : Failure → Prop} (hopen : OpensUnder r.backend store) {v : Visit σ}
    (hsize : 0 < v.page.pageSize) (hkeys : v.page.sorts = .ok keys)
    (hcount : v.page.autoCount = true →
      Answers r.backend store (r.plainQuery predicates).countShape (· = countRows n))
    (hrows : Refuses r.backend store (r.pageQuery predicates keys v.page) expected)
    (hv : store v.world.store) :
    ∃ failure, ((r.findPage predicates).run v).1 = .error failure ∧ expected failure ∧
      ((r.findPage predicates).run v).2.page.result = v.page.result := by
  obtain ⟨w₁, hrun₁, hw₁⟩ := hopen v.world hv
  rw [r.findPage_accepted hsize hkeys hrun₁, countAndFill]
  cases hauto : v.page.autoCount with
  | false =>
      obtain ⟨failure, w₂, hrun₂, hexpected⟩ :=
        r.fillRows_refused rfl hrows (v := { v with world := w₁ }) hw₁
      exact ⟨failure, congrArg Prod.fst hrun₂, hexpected,
        congrArg (fun out => out.2.page.result) hrun₂⟩
  | true =>
      obtain ⟨w₂, hrun₂, hw₂⟩ := r.countResult_answered (hcount hauto) hw₁
      obtain ⟨w₃, hnote, hw₃⟩ := r.noteCount_run (n : Int) { v with world := w₂ }
      obtain ⟨failure, w₄, hrun₄, hexpected⟩ := r.fillRows_refused rfl hrows
        (v := ⟨w₃, { v.page with totalCount := n }⟩) (hw₃ ▸ hw₂)
      simp only [if_true, Action.run_bind, outside_run, hrun₂, hnote]
      exact ⟨failure, congrArg Prod.fst hrun₄, hexpected,
        congrArg (fun out => out.2.page.result) hrun₄⟩

end Repository

end

end PagedQuery
