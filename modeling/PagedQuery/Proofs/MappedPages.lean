import PagedQuery.Proofs.PageOrders
import PagedQuery.Proofs.ReadingAll

/-!
# Mapped pages

A page is mapped by making a new page of the request of the first one, which passes the order
text through its check and the number of the page through its bound once more.  Both leave
alone what they have accepted before, and whatever has been done to a page, its number and its
order have been accepted.  So a mapped page differs from the first one in its rows only.

Main results:

- Theorem `mapRows_map`: rows are transformed twice by one pass.
- Theorem `map_written_total`: a page is mapped by a function that gives a value for every row.
- Theorem `WrittenPage.map_reached`: what mapping keeps of a page, how maps compose, and how they
  fail.
-/

namespace PagedQuery

/-! ## Transformed rows -/

section

variable {α β γ : Type}

/-- Rows are transformed one after another. -/
theorem mapRows_eq_mapM (f : α → Except Failure β) (rows : List α) :
    mapRows f rows = rows.mapM f := by
  induction rows with
  | nil => rfl
  | cons row rows ih =>
      rw [mapRows, mapM_cons_eq, ih]
      cases f row with
      | error failure => rfl
      | ok image => cases rows.mapM f <;> rfl

/-- Images of rows are transformed as the rows are by both functions in turn. -/
theorem mapRows_map (f : α → β) (g : β → Except Failure γ) (rows : List α) :
    mapRows g (rows.map f) = mapRows (fun row => g (f row)) rows := by
  induction rows with
  | nil => rfl
  | cons row rows ih => rw [List.map_cons, mapRows, mapRows, ih]

end

/-! ## What pages compute -/

/-- What a page computes from its request and its count. -/
structure Computed where
  first : Int
  totalPages : Except Failure Int
  hasPrevious : Bool
  hasNext : Except Failure Bool
  previousPage : Int
  nextPage : Except Failure Int
  isOrderBySet : Bool
  sorts : Except Failure (List SortKey)

namespace Page

variable {α β γ : Type}

/-- What the page computes from its request and its count. -/
def computed (p : Page α) : Computed where
  first := p.first
  totalPages := p.totalPages
  hasPrevious := p.hasPrevious
  hasNext := p.hasNext
  previousPage := p.previousPage
  nextPage := p.nextPage
  isOrderBySet := p.isOrderBySet
  sorts := p.sorts

/-- The number of pages is told by the count and the size of a page. -/
theorem totalPages_congr {p : Page α} {q : Page β} (hcount : q.totalCount = p.totalCount)
    (hsize : q.pageSize = p.pageSize) : q.totalPages = p.totalPages := by
  rw [totalPages, totalPages, hcount, hsize]

/-- The rows of a page count for nothing that it computes. -/
theorem computed_withRows (p : Page α) (rows : List β) :
    (p.withRows rows).computed = p.computed := by
  have htotal : (p.withRows rows).totalPages = p.totalPages := totalPages_congr rfl rfl
  have hnext : (p.withRows rows).hasNext = p.hasNext := by
    rw [hasNext, hasNext, htotal]
    rfl
  have hpage : (p.withRows rows).nextPage = p.nextPage := by
    rw [nextPage, nextPage, hnext]
    rfl
  rw [computed, htotal, hnext, hpage]
  rfl

/-- A page is mapped by a function that gives a value for every row. -/
theorem map_total (p : Page α) (f : α → β) :
    p.map (fun row => .ok (f row)) = .ok (p.withRows (p.result.map f)) := by
  rw [map, mapRows_pure]

/-- The images of the rows of a page are mapped as the rows are by both functions in turn. -/
theorem map_withRows (p : Page α) (f : α → β) (g : β → Except Failure γ) :
    (p.withRows (p.result.map f)).map g = p.map fun row => g (f row) := by
  have hrows : (p.withRows (p.result.map f)).result = p.result.map f := rfl
  rw [map, map, hrows, mapRows_map]
  cases mapRows (fun row => g (f row)) p.result <;> rfl

end Page

namespace WrittenPage

variable {α β : Type}

/-- Mapping a page does not touch it. -/
theorem mapping_run (f : α → Except Failure β) (w : WrittenPage α) :
    (mapping f).run w = (w.map f, w) := rfl

/-- The written form of a page is mapped by a function that gives a value for every row. -/
theorem map_written_total (p : Page α) (f : α → β) :
    p.written.map (fun row => .ok (f row)) = .ok (p.withRows (p.result.map f)).written := by
  rw [map_written, Page.map_total]
  rfl

/-- Mapping the written form of a page fails as the first row does that has no image. -/
theorem map_written_error_iff (p : Page α) (f : α → Except Failure β) {failure : Failure} :
    p.written.map f = .error failure ↔
      ∃ before row after, p.result = before ++ row :: after ∧
        (∀ other ∈ before, ∃ image, f other = .ok image) ∧ f row = .error failure := by
  rw [← mapM_eq_error_iff, ← mapRows_eq_mapM, map_written, map_eq_error, Page.map]
  cases mapRows f p.result <;> simp

/-- A page stands for its written form. -/
theorem standsFor_written (p : Page α) : StandsFor p p.written :=
  ⟨rfl, assign_written p, map_written p, sorts_written p⟩

/-- The second page asks for the same rows as the first and has counted as many. -/
structure AsksAlike (w : WrittenPage α) (w' : WrittenPage β) : Prop where
  request : w'.toPageRequest = w.toPageRequest
  totalCount : w'.totalCount = w.totalCount
  sorts : w'.sorts = w.sorts
  /-- Both pages compute the same. -/
  computed : ∃ (p : Page α) (q : Page β), StandsFor p w ∧ StandsFor q w' ∧
    q.computed = p.computed

/-- What mapping the page does. -/
structure MapsItsRows (w : WrittenPage α) : Prop where
  /-- A function that gives a value for every row changes nothing but the rows. -/
  mapped : ∀ {β : Type} (f : α → β), ∃ w' : WrittenPage β,
    (mapping fun row => .ok (f row)).run w = (.ok w', w) ∧ AsksAlike w w' ∧
      w'.result = w.result.map f
  /-- Mapping twice is mapping by both functions in turn. -/
  composed : ∀ {β γ : Type} (f : α → β) (g : β → Except Failure γ),
    ((w.map fun row => .ok (f row)).bind fun w' => w'.map g) = w.map fun row => g (f row)
  /-- Mapping every row to itself gives an equal page. -/
  same : w.map .ok = .ok w
  /-- The first row without an image decides how mapping fails, and the page is unchanged. -/
  failed : ∀ {β : Type} (f : α → Except Failure β) (failure : Failure),
    (mapping f).run w = (.error failure, w) ↔
      ∃ before row after, w.result = before ++ row :: after ∧
        (∀ other ∈ before, ∃ image, f other = .ok image) ∧ f row = .error failure

/-- Whatever has been done to a page, accepted or not, mapping it keeps its request and its count,
and with them all that is computed from these; maps compose, and the map that changes no row
changes nothing.  Mapping fails as the first row that has no image, and leaves the page as it
is. -/
theorem map_reached {w : WrittenPage α} (h : Reached w) : MapsItsRows w := by
  obtain ⟨p, rfl⟩ := h.exists_page
  constructor
  case mapped =>
    intro β f
    refine ⟨(p.withRows (p.result.map f)).written, ?_, ?_, rfl⟩
    · rw [mapping_run, map_written_total]
    · exact ⟨rfl, rfl, by rw [sorts_written, sorts_written]; rfl,
        p, _, standsFor_written p, standsFor_written _, Page.computed_withRows p _⟩
  case composed =>
    intro β γ f g
    rw [map_written_total, map_written p, ← Page.map_withRows p f g, ← map_written]
    rfl
  case same =>
    have hrows : (p.withRows (p.result.map id)).written = p.written := by
      rw [List.map_id]
      rfl
    exact (map_written_total p id).trans (congrArg _ hrows)
  case failed =>
    intro β f failure
    rw [mapping_run]
    refine Iff.trans ?_ (map_written_error_iff p f)
    exact ⟨fun h => congrArg Prod.fst h, fun h => by rw [h]⟩

/-- The third page of a request whose order text has been left without directions, with rows. -/
def unorderedPage : WrittenPage Value where
  pageSize := 2
  pageNo := 3
  orderBy := some "name"
  order := some ""
  autoCount := true
  result := [.text "ann", .int 7]
  totalCount := 6

/-- Rows are put into lists on a page whose order text is empty; the size of a number is reported,
and the page stays as it is. -/
theorem map_reached_unordered :
    (∃ w', (mapping fun v => .ok (Value.list [v])).run unorderedPage = (.ok w', unorderedPage) ∧
      w'.order = some "" ∧ w'.result = [.list [.text "ann"], .list [.int 7]]) ∧
    (mapping Transform.size.apply).run unorderedPage = (.error .mismatch, unorderedPage) := by
  have hmade : Reached { unorderedPage with result := ([] : List Value), totalCount := -1 } :=
    .made (r := { unorderedPage.toPageRequest with order := some " , " }) rfl
  have hreached : Reached unorderedPage :=
    (hmade.assigned (.result unorderedPage.result)).assigned (.totalCount 6)
  have hmaps := map_reached hreached
  obtain ⟨w', hrun, halike, hrows⟩ := hmaps.mapped fun v => Value.list [v]
  refine ⟨⟨w', hrun, ?_, hrows⟩, ?_⟩
  · exact congrArg PageRequest.order halike.request
  · refine (hmaps.failed Transform.size.apply .mismatch).2
      ⟨[.text "ann"], .int 7, [], rfl, ?_, rfl⟩
    exact List.forall_mem_singleton.2 ⟨_, rfl⟩

end WrittenPage

end PagedQuery
