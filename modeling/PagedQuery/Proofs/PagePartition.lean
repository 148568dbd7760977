import PagedQuery.Proofs.KeyOrder
import PagedQuery.Proofs.Matching
import PagedQuery.Proofs.Preservation

/-!
# Pages as a partition of the result

All pages of one request are slices of one sorted list of matching rows, whatever
was fetched before.  So reading the pages one after another reads every matching
row once, in the order of the request.

Main results:

- Theorem `isPaging_of_slices`: slices of one size, taken side by side, make up the
  whole list.
- Theorem `findPage_slice`: a page is its slice of the sorted matching rows.
- Theorem `findPage_partition`: the pages of a request partition its result.
-/

namespace PagedQuery
namespace Collection

open Repository Predicate

/-! ## Slices side by side -/

/-- The rows of a page: what stands behind the pages before it, up to its size. -/
def pageSlice (size : Nat) (rows : List Value) (k : Nat) : List Value :=
  (rows.drop ((k - 1) * size)).take size

/-- The number of pages that a number of rows fills, the last one perhaps in part. -/
def pageCount (size total : Nat) : Nat := (total + (size - 1)) / size

/-- Pages, numbered from 1, partition a list of rows. -/
structure IsPaging (size : Nat) (rows : List Value) (page : Nat → List Value) : Prop where
  /-- Read one after another, the pages give all rows. -/
  all_rows : (List.range' 1 (pageCount size rows.length)).flatMap page = rows
  /-- Every page but the last one is full. -/
  full : ∀ k, 1 ≤ k → k < pageCount size rows.length → (page k).length = size
  /-- The last page has a row, and no more rows than there is room for. -/
  last : ∀ k, 1 ≤ k → k = pageCount size rows.length →
    1 ≤ (page k).length ∧ (page k).length ≤ size
  /-- There is nothing behind the last page. -/
  beyond : ∀ k, pageCount size rows.length < k → page k = []

/-- A page is not the last one when more rows follow. -/
theorem lt_pageCount {size total k : Nat} (hsize : 1 ≤ size) :
    k < pageCount size total ↔ k * size < total := by
  have hdiv : k + 1 ≤ pageCount size total ↔ (k + 1) * size ≤ total + (size - 1) :=
    Nat.le_div_iff_mul_le hsize
  have hmul : (k + 1) * size = k * size + size := Nat.succ_mul k size
  rw [← Nat.succ_le_iff, hdiv, hmul]
  omega

/-- The first pages, read one after another, give the first rows. -/
theorem flatMap_pageSlice (size : Nat) (rows : List Value) (m : Nat) :
    (List.range' 1 m).flatMap (pageSlice size rows) = rows.take (m * size) := by
  induction m with
  | zero => simp
  | succ m ih =>
      have hslice : pageSlice size rows (1 + m) = (rows.drop (m * size)).take size := by
        rw [pageSlice, Nat.add_sub_cancel_left]
      rw [List.range'_1_concat, List.flatMap_append, ih, List.flatMap_singleton, hslice,
        Nat.succ_mul, List.take_add]

/-- The number of rows on a page. -/
theorem length_pageSlice (size : Nat) (rows : List Value) (k : Nat) :
    (pageSlice size rows k).length = min size (rows.length - (k - 1) * size) := by
  rw [pageSlice, List.length_take, List.length_drop]

/-- Slices of one size, taken side by side, make up the whole list. -/
theorem isPaging_of_slices {size : Nat} (hsize : 1 ≤ size) {rows : List Value}
    {page : Nat → List Value} (h : ∀ k, 1 ≤ k → page k = pageSlice size rows k) :
    IsPaging size rows page := by
  constructor
  · have hpages : (List.range' 1 (pageCount size rows.length)).flatMap page =
        (List.range' 1 (pageCount size rows.length)).flatMap (pageSlice size rows) := by
      apply List.flatMap_congr
      intro k hk
      exact h k (List.mem_range'_1.1 hk).1
    have hcovers : rows.length ≤ pageCount size rows.length * size := by
      have hlast : ¬pageCount size rows.length * size < rows.length :=
        fun hlt => lt_irrefl _ ((lt_pageCount hsize).2 hlt)
      omega
    rw [hpages, flatMap_pageSlice, List.take_of_length_le hcovers]
  · intro k hk hlt
    have hrows := (lt_pageCount hsize).1 hlt
    have hmul : k * size = (k - 1) * size + size := by
      rw [← Nat.succ_mul, Nat.succ_eq_add_one, Nat.sub_add_cancel hk]
    rw [h k hk, length_pageSlice]
    omega
  · intro k hk hlast
    have hrows : (k - 1) * size < rows.length := (lt_pageCount hsize).1 (by omega)
    rw [h k hk, length_pageSlice]
    omega
  · intro k hlt
    have hrows : rows.length ≤ (k - 1) * size :=
      Nat.not_lt.1 ((lt_pageCount hsize).not.1 (by omega))
    rw [h k (by omega), pageSlice, List.drop_eq_nil_of_le hrows, List.take_nil]

/-! ## Pages of one request -/

/-- The rows of an answered page start behind the pages before it. -/
theorem first_sub_one_toNat {p : Page Value} {k size : Nat} (hk : 1 ≤ k)
    (hno : p.pageNo = k) (hsize : p.pageSize = size) :
    (p.first - 1).toNat = (k - 1) * size := by
  have hfirst : p.first - 1 = (((k - 1) * size : Nat) : Int) := by
    rw [Page.first, hno, hsize, Int.natCast_mul, Int.natCast_sub hk, Int.natCast_one,
      Int.add_sub_cancel]
  rw [hfirst, Int.toNat_natCast]

variable {entity : String} {rows sorted : List Value} {predicates : List Predicate}
  {keys : List SortKey}

/-- A page is its slice of the sorted matching rows, and when it counts, their
number. -/
theorem findPage_slice {w : World Store} (hrows : w.store.rows? entity = some rows)
    (heval : ∀ row ∈ rows, EvaluatesAll predicates row)
    (hsorted : sortRows keys (select predicates rows) = .ok sorted)
    {p : Page Value} {k size : Nat} (hk : 1 ≤ k) (hsize : 1 ≤ size) (hno : p.pageNo = k)
    (hroom : p.pageSize = size) (hkeys : p.sorts = .ok keys) :
    ∃ w', (findPage ⟨backend, entity⟩ predicates).run ⟨w, p⟩ = (.ok (), ⟨w', { p with
      totalCount := if p.autoCount then (sorted.length : Int) else p.totalCount
      result := pageSlice size sorted k }⟩) := by
  have hpos : 0 < p.pageSize := by omega
  obtain ⟨w', hrun⟩ := findPage_sorted hrows heval hsorted hpos hkeys
  have hslice : (sorted.drop (p.first - 1).toNat).take p.pageSize.toNat =
      pageSlice size sorted k := by
    rw [first_sub_one_toNat hk hno hroom, hroom, Int.toNat_natCast, pageSlice]
  refine ⟨w', ?_⟩
  rw [hrun, hslice]

/-- The pages of a request partition its result.  There is one list of all matching
rows in the order of the request, and rows that no key tells apart stand in it as they
were stored.  Whatever pages were fetched before, a page holds its slice of that list,
and the length of the list when it counts. -/
theorem findPage_partition {w : World Store} (hrows : w.store.rows? entity = some rows)
    (heval : ∀ row ∈ rows, EvaluatesAll predicates row)
    (hcomparable : ∀ key ∈ keys, Comparable (fieldValues key.field (select predicates rows))) :
    ∃ result : List Value, result.Perm (select predicates rows) ∧
      ((∀ key ∈ keys, Orderable (fieldValues key.field (select predicates rows))) →
        ∀ tie : Value → Value → Prop, (select predicates rows).Pairwise tie →
          result.Pairwise (standsBefore tie keys)) ∧
      ∀ (p : Page Value) (size : Nat), 1 ≤ size → p.pageSize = size → p.sorts = .ok keys →
        ∀ earlier : Nat → List PageFetch,
          let visit (k : Nat) := (findPage ⟨backend, entity⟩ predicates).run
            ⟨fetchPages backend w (earlier k), p.setPageNo k⟩
          (∀ k, 1 ≤ k → (visit k).1 = .ok () ∧
            (visit k).2.page.result = pageSlice size result k ∧
            (p.autoCount = true → (visit k).2.page.totalCount = result.length)) ∧
          IsPaging size result fun k => (visit k).2.page.result := by
  obtain ⟨sorted, hsorted⟩ := sortRows_ok hcomparable
  refine ⟨sorted, sortRows_perm hsorted, ?_, ?_⟩
  · intro horder tie htie
    exact sortRows_standsBefore horder htie hsorted
  · intro p size hsize hroom hkeys earlier visit
    have hvisit : ∀ k, 1 ≤ k → ∃ w', visit k = (.ok (), ⟨w', { p.setPageNo k with
        totalCount := if p.autoCount then (sorted.length : Int) else p.totalCount
        result := pageSlice size sorted k }⟩) := by
      intro k hk
      have hkept : (fetchPages backend w (earlier k)).store.rows? entity = some rows := by
        rw [Store.rows?, fetchPages_keeps collection_reads w (earlier k)]
        exact hrows
      have hno : (p.setPageNo k).pageNo = k := by
        rw [Page.pageNo_setPageNo]
        omega
      exact findPage_slice hkept heval hsorted hk hsize hno hroom hkeys
    constructor
    · intro k hk
      obtain ⟨w', hrun⟩ := hvisit k hk
      rw [hrun]
      refine ⟨rfl, rfl, ?_⟩
      intro hcount
      simp only [hcount, if_true]
    · apply isPaging_of_slices hsize
      intro k hk
      obtain ⟨w', hrun⟩ := hvisit k hk
      rw [hrun]

/-! ## Pages of some users -/

/-- Users by age, one of them without. -/
def someUsers : List Value :=
  [.mapping [("id", .int 1), ("age", .int 30)], .mapping [("id", .int 2), ("age", .null)],
    .mapping [("id", .int 3), ("age", .int 41)], .mapping [("id", .int 4), ("age", .int 30)]]

/-- Users by falling age, two on a page. -/
def byAge : Page Value where
  pageNo := 1
  pageSize := 2
  orderBy := some "age"
  order := some [.desc]
  autoCount := true
  result := []
  totalCount := -1
  one_le_pageNo := by decide

/-- The pages of users by age, read from the last one to the first one, partition the
users that were asked for. -/
theorem findPage_partition_users :
    ∃ result : List Value,
      result.Perm (select [.compare "id" .ge (.int 2)] someUsers) ∧
        IsPaging 2 result fun k =>
          ((findPage ⟨backend, "users"⟩ [.compare "id" .ge (.int 2)]).run
            ⟨fetchPages backend ⟨{ collections := [("users", someUsers)] }, []⟩
              [.byPredicates "users" [.compare "id" .ge (.int 2)] (byAge.setPageNo (k + 1))],
              byAge.setPageNo k⟩).2.page.result := by
  have hrows : ({ collections := [("users", someUsers)] } : Store).rows? "users" =
      some someUsers := rfl
  have heval : ∀ row ∈ someUsers, EvaluatesAll [.compare "id" .ge (.int 2)] row := by
    simp only [someUsers, List.forall_mem_cons]
    exact ⟨⟨_, rfl⟩, ⟨_, rfl⟩, ⟨_, rfl⟩, ⟨_, rfl⟩, List.forall_mem_nil _⟩
  have hcomparable : ∀ key ∈ [SortKey.mk "age" .desc],
      Comparable (fieldValues key.field (select [.compare "id" .ge (.int 2)] someUsers)) := by
    rw [List.forall_mem_singleton]
    change ∀ v ∈ [.null, .int 41, .int 30], ∀ w ∈ [.null, .int 41, .int 30],
      clashes v w = false
    decide
  obtain ⟨result, hperm, -, hpages⟩ :=
    findPage_partition (w := ⟨{ collections := [("users", someUsers)] }, []⟩) hrows heval
      hcomparable
  refine ⟨result, hperm, ?_⟩
  exact (hpages byAge 2 (by decide) rfl rfl fun k =>
    [.byPredicates "users" [.compare "id" .ge (.int 2)] (byAge.setPageNo (k + 1))]).2

end Collection
end PagedQuery
