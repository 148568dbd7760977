import PagedQuery.Proofs.PagePartition
import PagedQuery.Proofs.RoundedQuotients

/-!
# Reading pages forward

A result is read by filling the first page and going on to the next page as long as the
page says that there is one.  With a counted result of at most 2 to the 53 rows the page
is right about that, so reading ends behind the last page, and has seen every row once.

Main results:

- Theorem `hasNext_counted`: a counted page knows whether more rows follow.
- Theorem `Walk.unique`: reading forward takes one course.
- Theorem `walk_pages`: reading forward ends, and gives the whole result in its order.
-/

namespace PagedQuery

/-! ## Where a counted page stands -/

section

variable {p : Page Value} {k size total : Nat}

/-- A counted page knows whether more rows follow. -/
theorem hasNext_counted (hk : 1 ≤ k) (hno : p.pageNo = k) (hsize : 1 ≤ size)
    (hroom : p.pageSize = size) (hcount : p.totalCount = total) (hmany : total ≤ 2 ^ 53) :
    p.hasNext = .ok (decide (k * size < total)) := by
  obtain ⟨n, hceil, habove⟩ := Numeric.ceilQuotient?_eq hsize hmany
  have hknown : (p.totalCount < 0 || p.pageSize ≤ 0) = false := by
    simp only [hcount, hroom, Bool.or_eq_false_iff, decide_eq_false_iff_not]
    omega
  have hpages : p.totalPages = .ok (n : Int) := by
    rw [Page.totalPages, hknown, hcount, hroom, Int.toNat_natCast, Int.toNat_natCast, hceil]
    rfl
  have hiff : p.pageNo + 1 ≤ (n : Int) ↔ k * size < total := by
    rw [← habove k hk, hno]
    omega
  rw [Page.hasNext, hpages]
  simp only [hiff]

/-- A counted page goes on to the page behind it when more rows follow. -/
theorem nextPage_counted (hk : 1 ≤ k) (hno : p.pageNo = k) (hsize : 1 ≤ size)
    (hroom : p.pageSize = size) (hcount : p.totalCount = total) (hmany : total ≤ 2 ^ 53)
    (hmore : k * size < total) : p.nextPage = .ok (k + 1 : Nat) := by
  rw [Page.nextPage, hasNext_counted hk hno hsize hroom hcount hmany]
  simp [hmore, hno]

end

/-! ## Reading forward -/

/-- Reading forward from a page: the page is filled, and as long as it has a next page,
that page is read.  In between anything may happen to the world.  What is read are the
filled pages. -/
inductive Walk {σ : Type} (fetch : Action (Visit σ) Unit) (between : World σ → World σ) :
    Visit σ → List (Page Value) → Prop where
  | last {v : Visit σ} {w : World σ} {p : Page Value}
      (hfetch : fetch.run v = (.ok (), ⟨w, p⟩)) (hmore : p.hasNext = .ok false) :
      Walk fetch between v [p]
  | step {v : Visit σ} {w : World σ} {p : Page Value} {n : Int} {pages : List (Page Value)}
      (hfetch : fetch.run v = (.ok (), ⟨w, p⟩)) (hmore : p.hasNext = .ok true)
      (hnext : p.nextPage = .ok n)
      (hrest : Walk fetch between ⟨between w, p.setPageNo n⟩ pages) :
      Walk fetch between v (p :: pages)

/-- Reading forward takes one course. -/
theorem Walk.unique {σ : Type} {fetch : Action (Visit σ) Unit} {between : World σ → World σ}
    {v : Visit σ} {pages others : List (Page Value)} (h : Walk fetch between v pages)
    (h' : Walk fetch between v others) : others = pages := by
  induction h generalizing others with
  | last hfetch hmore =>
      cases h' with
      | last hfetch' hmore' =>
          rw [hfetch] at hfetch'
          cases hfetch'
          rfl
      | step hfetch' hmore' hnext' hrest' =>
          rw [hfetch] at hfetch'
          cases hfetch'
          rw [hmore] at hmore'
          cases hmore'
  | step hfetch hmore hnext hrest ih =>
      cases h' with
      | last hfetch' hmore' =>
          rw [hfetch] at hfetch'
          cases hfetch'
          rw [hmore] at hmore'
          cases hmore'
      | step hfetch' hmore' hnext' hrest' =>
          rw [hfetch] at hfetch'
          cases hfetch'
          rw [hnext] at hnext'
          cases hnext'
          rw [ih hrest']

namespace Collection

open Repository Predicate

variable {entity : String} {rows sorted : List Value} {predicates : List Predicate}
  {keys : List SortKey} {p : Page Value} {size : Nat}

/-- A page of a request, filled and counted. -/
def filledPage (p : Page Value) (size : Nat) (sorted : List Value) (k : Nat) : Page Value :=
  { p.setPageNo k with
    totalCount := (sorted.length : Int)
    result := pageSlice size sorted k }

/-- The number of pages that reading forward fetches: all pages, and at least one. -/
def walkLength (size total : Nat) : Nat := max 1 (pageCount size total)

/-- The number of a page that was asked for. -/
theorem setPageNo_pageNo (p : Page Value) {k : Nat} (hk : 1 ≤ k) :
    (p.setPageNo k).pageNo = k := by
  rw [Page.pageNo_setPageNo]
  omega

/-- A filled page knows whether more rows follow. -/
theorem filledPage_hasNext {k : Nat} (hk : 1 ≤ k) (hsize : 1 ≤ size)
    (hroom : p.pageSize = size) (hmany : sorted.length ≤ 2 ^ 53) :
    (filledPage p size sorted k).hasNext = .ok (decide (k * size < sorted.length)) :=
  hasNext_counted hk (setPageNo_pageNo p hk) hsize hroom rfl hmany

/-- The page before a filled page is the one that was left for it. -/
theorem filledPage_previousPage (k : Nat) :
    (filledPage p size sorted (k + 1)).previousPage = (filledPage p size sorted k).pageNo := by
  have hno : ∀ k : Nat, (filledPage p size sorted k).pageNo = max 1 (k : Int) := fun _ => rfl
  unfold Page.previousPage Page.hasPrevious
  rw [hno, hno]
  split <;> rename_i h <;> simp only [decide_eq_true_eq] at h <;> omega

/-- Filling a page that counts answers a request, whatever the page held before, and keeps
the rows that it is filled from. -/
theorem findPage_filled {w : World Store} (hrows : w.store.rows? entity = some rows)
    (heval : ∀ row ∈ rows, EvaluatesAll predicates row)
    (hsorted : sortRows keys (select predicates rows) = .ok sorted)
    (hsize : 1 ≤ size) (hroom : p.pageSize = size) (hkeys : p.sorts = .ok keys)
    (hcount : p.autoCount = true) {k : Nat} (hk : 1 ≤ k) (total : Int) (held : List Value) :
    ∃ w', (findPage ⟨backend, entity⟩ predicates).run
          ⟨w, { p.setPageNo k with totalCount := total, result := held }⟩ =
        (.ok (), ⟨w', filledPage p size sorted k⟩) ∧
      w'.store.rows? entity = some rows := by
  obtain ⟨w', hrun⟩ := findPage_slice hrows heval hsorted
    (p := { p.setPageNo k with totalCount := total, result := held }) hk hsize
    (setPageNo_pageNo p hk) hroom hkeys
  have hkept : w'.store.collections = w.store.collections := by
    have hreads := findPage_preserves ⟨backend, entity⟩ collection_reads predicates
      ⟨w, { p.setPageNo k with totalCount := total, result := held }⟩
    rw [hrun] at hreads
    exact hreads
  refine ⟨w', ?_, ?_⟩
  · rw [hrun]
    simp only [filledPage, Page.setPageNo, hcount, if_true]
  · rw [Store.rows?, hkept]
    exact hrows

/-- From each page on, reading forward fills that page and all pages behind it. -/
theorem walk_from {between : World Store → World Store}
    (hbetween : ∀ w, (between w).store.rows? entity = w.store.rows? entity)
    (heval : ∀ row ∈ rows, EvaluatesAll predicates row)
    (hsorted : sortRows keys (select predicates rows) = .ok sorted)
    (hsize : 1 ≤ size) (hroom : p.pageSize = size) (hkeys : p.sorts = .ok keys)
    (hcount : p.autoCount = true) (hmany : sorted.length ≤ 2 ^ 53) {k left : Nat}
    (hk : 1 ≤ k) (hleft : k + left = walkLength size sorted.length) (total : Int)
    (held : List Value) {w : World Store} (hrows : w.store.rows? entity = some rows) :
    Walk (findPage ⟨backend, entity⟩ predicates) between
      ⟨w, { p.setPageNo k with totalCount := total, result := held }⟩
      ((List.range' k (left + 1)).map (filledPage p size sorted)) := by
  have hlast : ∀ k, k < pageCount size sorted.length ↔ k * size < sorted.length :=
    fun k => lt_pageCount hsize
  induction left generalizing k total held w with
  | zero =>
      obtain ⟨w', hrun, -⟩ :=
        findPage_filled hrows heval hsorted hsize hroom hkeys hcount hk total held
      apply Walk.last hrun
      rw [filledPage_hasNext hk hsize hroom hmany]
      have hend : ¬k * size < sorted.length := by
        rw [← hlast]
        unfold walkLength at hleft
        omega
      simp [hend]
  | succ left ih =>
      obtain ⟨w', hrun, hrows'⟩ :=
        findPage_filled hrows heval hsorted hsize hroom hkeys hcount hk total held
      have hmore : k * size < sorted.length := by
        rw [← hlast]
        unfold walkLength at hleft
        omega
      rw [List.range'_succ, List.map_cons]
      apply Walk.step hrun
      · rw [filledPage_hasNext hk hsize hroom hmany, decide_eq_true hmore]
      · exact nextPage_counted hk (setPageNo_pageNo p hk) hsize hroom rfl hmany hmore
      · have hrest := ih (k := k + 1) (by omega) (by omega) sorted.length
          (pageSlice size sorted k) ((hbetween w').trans hrows')
        exact hrest

/-- Reading forward from the first page ends.  It fetches each page of the result once,
or one empty page, and what it reads is the whole result in the order of the request.
Every page knows whether more rows follow, and has the page just left before it. -/
theorem walk_pages {w : World Store} (hrows : w.store.rows? entity = some rows)
    (heval : ∀ row ∈ rows, EvaluatesAll predicates row)
    (hcomparable : ∀ key ∈ keys, Comparable (fieldValues key.field (select predicates rows)))
    (hmany : (select predicates rows).length ≤ 2 ^ 53) :
    ∃ result : List Value, result.Perm (select predicates rows) ∧
      ((∀ key ∈ keys, Orderable (fieldValues key.field (select predicates rows))) →
        ∀ tie : Value → Value → Prop, (select predicates rows).Pairwise tie →
          result.Pairwise (standsBefore tie keys)) ∧
      ∀ (p : Page Value) (size : Nat), 1 ≤ size → p.pageSize = size → p.sorts = .ok keys →
        p.autoCount = true → ∀ between : World Store → World Store,
          (∀ w, (between w).store.rows? entity = w.store.rows? entity) →
          ∃ pages, Walk (findPage ⟨backend, entity⟩ predicates) between
              ⟨w, p.setPageNo 1⟩ pages ∧
            (∀ others, Walk (findPage ⟨backend, entity⟩ predicates) between
              ⟨w, p.setPageNo 1⟩ others → others = pages) ∧
            pages.length = max 1 (pageCount size result.length) ∧
            pages.flatMap (·.result) = result ∧
            (∀ q ∈ pages, q.totalCount = result.length ∧
              q.hasNext = .ok (decide (q.pageNo * q.pageSize < q.totalCount))) ∧
            pages.IsChain fun q next => next.previousPage = q.pageNo := by
  obtain ⟨sorted, hsorted⟩ := sortRows_ok hcomparable
  have hperm := sortRows_perm hsorted
  refine ⟨sorted, hperm, ?_, ?_⟩
  · intro horder tie htie
    exact sortRows_standsBefore horder htie hsorted
  · intro p size hsize hroom hkeys hcount between hbetween
    rw [← hperm.length_eq] at hmany
    have hlength : 1 + (walkLength size sorted.length - 1) = walkLength size sorted.length := by
      unfold walkLength
      omega
    have hwalk := walk_from hbetween heval hsorted hsize hroom hkeys hcount hmany
      (Nat.le_refl 1) hlength p.totalCount p.result hrows
    refine ⟨_, hwalk, fun others hothers => hwalk.unique hothers, ?_, ?_, ?_, ?_⟩
    · rw [List.length_map, List.length_range']
      unfold walkLength at hlength ⊢
      omega
    · have hcovers : sorted.length ≤ walkLength size sorted.length * size := by
        have hend : ¬walkLength size sorted.length * size < sorted.length := by
          rw [← lt_pageCount hsize]
          unfold walkLength
          omega
        omega
      rw [List.flatMap_map, Nat.add_comm _ 1, hlength]
      exact (flatMap_pageSlice size sorted _).trans (List.take_of_length_le hcovers)
    · intro q hq
      obtain ⟨k, hk, rfl⟩ := List.mem_map.1 hq
      have hk : 1 ≤ k := (List.mem_range'_1.1 hk).1
      have hno : (filledPage p size sorted k).pageNo = k := setPageNo_pageNo p hk
      have hsame : (filledPage p size sorted k).pageSize = size := hroom
      have htotal : (filledPage p size sorted k).totalCount = sorted.length := rfl
      refine ⟨htotal, ?_⟩
      rw [filledPage_hasNext hk hsize hroom hmany, hno, hsame, htotal]
      norm_cast
    · rw [List.isChain_map]
      apply (List.isChain_range' 1 _ 1).imp
      rintro k next rfl
      exact filledPage_previousPage k

/-- Three users by falling age, two on a page, are read on two pages, while other queries
are made in between. -/
theorem walk_pages_users :
    ∃ result pages, result.Perm (select [.compare "id" .ge (.int 2)] someUsers) ∧
      Walk (findPage ⟨backend, "users"⟩ [.compare "id" .ge (.int 2)])
        (fun w => (backend.openQuery.run w).2)
        ⟨⟨{ collections := [("users", someUsers)] }, []⟩, byAge.setPageNo 1⟩ pages ∧
      pages.length = 2 ∧ pages.flatMap (·.result) = result := by
  have hrows : ({ collections := [("users", someUsers)] } : Store).rows? "users" =
      some someUsers := rfl
  have heval : ∀ row ∈ someUsers, EvaluatesAll [.compare "id" .ge (.int 2)] row := by
    simp only [someUsers, List.forall_mem_cons]
    exact ⟨⟨_, rfl⟩, ⟨_, rfl⟩, ⟨_, rfl⟩, ⟨_, rfl⟩, List.forall_mem_nil _⟩
  have hcomparable : ∀ key ∈ [SortKey.mk "age" .desc],
      Comparable (fieldValues key.field (select [.compare "id" .ge (.int 2)] someUsers)) := by
    rw [List.forall_mem_singleton]
    change ∀ v ∈ [.null, .int 41, .int 30], ∀ w ∈ [.null, .int 41, .int 30],
      clashes v w = false
    decide
  have hthree : (select [.compare "id" .ge (.int 2)] someUsers).length = 3 := rfl
  obtain ⟨result, hperm, -, hwalks⟩ :=
    walk_pages (w := ⟨{ collections := [("users", someUsers)] }, []⟩) hrows heval hcomparable
      (by rw [hthree]; decide)
  obtain ⟨pages, hwalk, -, hlength, hread, -⟩ :=
    hwalks byAge 2 (by decide) rfl rfl rfl (fun w => (backend.openQuery.run w).2) fun _ => rfl
  refine ⟨result, pages, hperm, hwalk, ?_, hread⟩
  rw [hlength, hperm.length_eq, hthree]
  rfl

end Collection
end PagedQuery
