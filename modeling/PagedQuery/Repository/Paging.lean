import PagedQuery.Page
import PagedQuery.Repository.Basic

/-!
# Filling pages

A page is filled with its slice of the matching rows and, when it asks for it,
with their number.  A page that cannot be filled keeps its rows.

Main results:

- Theorem `checkPageSize_ok`: only pages with room for a row are filled.
-/

namespace PagedQuery

open Numeric

/-- A page being filled from a backend. -/
structure Visit (σ : Type) where
  world : World σ
  page : Page Value

/-- A page must have room for at least one row. -/
def checkPageSize (p : Page Value) : Except Failure Unit :=
  if p.pageSize ≤ 0 then
    .error (.invalidArgument ("page_size must be > 0, got " ++ intText p.pageSize)
      [("page_size", .int p.pageSize)])
  else .ok ()

namespace Repository

variable {σ ρ : Type} (r : Repository σ ρ)

/-- An action on the backend while a page is filled. -/
def outside {α : Type} (x : Action (World σ) α) : Action (Visit σ) α :=
  x.onPart (·.world) fun w v => { v with world := w }

/-- Change the page that is filled. -/
def changePage (f : Page Value → Page Value) : Action (Visit σ) Unit :=
  .change fun v => { v with page := f v.page }

/-- Note the number of matching rows on the page. -/
def noteCount (total : Int) : Action (Visit σ) Unit := do
  changePage fun p => { p with totalCount := total }
  outside (r.log .debug "query.count" [("total_count", .int total)])

/-- Put the rows on the page. -/
def noteRows (rows : List Value) : Action (Visit σ) Unit := do
  changePage fun p => { p with result := rows }
  let p := (← Action.state).page
  outside (r.log .debug "query.page"
    [("page_no", .int p.pageNo), ("page_size", .int p.pageSize),
      ("returned", .int rows.length)])

/-- Fill the page with rows that meet all predicates. -/
def findPage (predicates : List Predicate) : Action (Visit σ) Unit := do
  let p := (← Action.state).page
  .ofExcept (checkPageSize p)
  let sorts ← .ofExcept p.sorts
  let q ← outside (r.createQuery predicates)
  if p.autoCount then
    r.noteCount (← outside (r.countResult q))
  let q ← .ofExcept (q.setOffset (.int (p.first - 1)))
  let q ← .ofExcept (q.setLimit (.int p.pageSize))
  r.noteRows (← outside (r.fetchAll (sorts.foldl Query.addSort q)))

/-- Fill the page with rows of which a property compares with a value. -/
def findPageBy (name : String) (value : Value) (m : MatchType) : Action (Visit σ) Unit := do
  r.findPage [← .ofExcept (criterion name value m)]

/-- Fill the page with rows that pass all filters. -/
def findPageByFilters (filters : List PropertyFilter) : Action (Visit σ) Unit := do
  r.findPage (← .ofExcept (predicatesOf filters))

/-- Fill the page from all rows. -/
def getAllPage : Action (Visit σ) Unit := r.findPage []

/-- Fill the page with rows of a query text.  The sort order of the page plays
no part. -/
def findPageByQuery (text : String) (values : List Value) (params : Entries) :
    Action (Visit σ) Unit := do
  let p := (← Action.state).page
  .ofExcept (checkPageSize p)
  .ofExcept (checkBindings text values params)
  if p.autoCount then
    r.noteCount (← outside (r.countByQuery text values params))
  let q ← outside (r.createTextQuery text values params)
  let q ← .ofExcept (q.setOffset (.int (p.first - 1)))
  let q ← .ofExcept (q.setLimit (.int p.pageSize))
  r.noteRows (← outside (r.backend.textRows q))

end Repository

theorem checkPageSize_ok {p : Page Value} (h : checkPageSize p = .ok ()) :
    0 < p.pageSize := by
  unfold checkPageSize at h
  split at h
  · simp at h
  · omega

end PagedQuery
