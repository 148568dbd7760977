import PagedQuery.Numeric.Double
import PagedQuery.SortKey
import PagedQuery.Text.CaseMap
import PagedQuery.Text.Fields
import PagedQuery.Transform

/-!
# Pages

A page is a request for one slice of a result and, once it has been filled, the
answer to it.  Pages are numbered from 1, and the sort order of a request is
kept as directions.

Main results:

- Theorem `pageNo_setPageNo`: numbers below 1 ask for the first page.
- Theorem `map_ok`: mapping a page changes its rows only.
-/

namespace PagedQuery

open Numeric Text

/-- A request for a slice of a result, with the answer to it. -/
structure Page (α : Type) where
  pageNo : Int
  pageSize : Int
  orderBy : Option String
  /-- The directions of the sort, in the order of its fields. -/
  order : Option (List Direction)
  autoCount : Bool
  result : List α
  /-- The number of all matching rows, -1 until they have been counted. -/
  totalCount : Int
  one_le_pageNo : 1 ≤ pageNo

/-- The fields of a request that a page is made from. -/
structure PageRequest where
  pageSize : Int := -1
  pageNo : Int := 1
  orderBy : Option String := none
  order : Option String := none
  autoCount : Bool := true

/-! ## The order text -/

/-- Read directions from their names; a name of neither is reported. -/
def readDirections (order : String) : List String → Except Failure (List Direction)
  | [] => .ok []
  | token :: tokens =>
      match Direction.ofName? token with
      | none =>
          .error (.invalidArgument ("order token " ++ token ++ " is invalid")
            [("token", .text token), ("order", .text order)])
      | some direction =>
          match readDirections order tokens with
          | .error failure => .error failure
          | .ok directions => .ok (direction :: directions)

/-- Read the order text of a request: a comma list of directions in any case. -/
def readOrder (order : String) : Except Failure (List Direction) :=
  readDirections order ((commaFields order).map lowerText)

/-- Directions as an order text. -/
def orderText (directions : List Direction) : String :=
  joinTexts "," (directions.map Direction.name)

/-! ## Rounded quotients -/

/-- The least whole number not below the double nearest to a quotient; a
quotient beyond the largest double has none. -/
def ceilQuotient? (num den : Nat) : Option Nat :=
  let units := roundedUnits num den
  if units < unitsLimit then some ((units + (unitsPerOne - 1)) / unitsPerOne) else none

namespace Page

variable {α β : Type}

/-! ## Assigning fields -/

/-- Ask for another page; numbers below 1 ask for the first one. -/
def setPageNo (p : Page α) (n : Int) : Page α :=
  { p with pageNo := max 1 n, one_le_pageNo := Int.le_max_left 1 n }

/-- Set the order from its text, or unset it. -/
def setOrder (p : Page α) : Option String → Except Failure (Page α)
  | none => .ok { p with order := none }
  | some order =>
      match readOrder order with
      | .ok directions => .ok { p with order := some directions }
      | .error failure => .error failure

/-- A page without rows, made from a request. -/
def ofRequest (r : PageRequest) : Except Failure (Page α) :=
  let unordered : Page α := {
    pageNo := max 1 r.pageNo
    pageSize := r.pageSize
    orderBy := r.orderBy
    order := none
    autoCount := r.autoCount
    result := []
    totalCount := -1
    one_le_pageNo := Int.le_max_left 1 r.pageNo }
  unordered.setOrder r.order

/-- A change of one field of a page. -/
inductive Assignment (α : Type) where
  | pageNo (n : Int)
  | pageSize (n : Int)
  | orderBy (fields : Option String)
  | order (directions : Option String)
  | autoCount (on : Bool)
  | result (rows : List α)
  | totalCount (n : Int)

/-- The names of what is derived from the fields of a page and cannot be set. -/
def derivedNames : List String :=
  ["first", "total_pages", "has_previous", "has_next", "previous_page", "next_page",
    "is_order_by_set", "sorts"]

/-- Change one field of a page. -/
def assign (p : Page α) : Assignment α → Except Failure (Page α)
  | .pageNo n => .ok (p.setPageNo n)
  | .pageSize n => .ok { p with pageSize := n }
  | .orderBy fields => .ok { p with orderBy := fields }
  | .order directions => p.setOrder directions
  | .autoCount on => .ok { p with autoCount := on }
  | .result rows => .ok { p with result := rows }
  | .totalCount n => .ok { p with totalCount := n }

/-! ## The sort request -/

/-- The fields to sort by. -/
def sortFields (p : Page α) : List String :=
  match p.orderBy with
  | some fields => commaFields fields
  | none => []

/-- The directions to sort in. -/
def directions (p : Page α) : List Direction := p.order.getD []

/-- The page asks for a sort: it has fields as well as directions. -/
def isOrderBySet (p : Page α) : Bool :=
  !p.sortFields.isEmpty && !p.directions.isEmpty

/-- An optional text as a value. -/
def textOrNull : Option String → Value
  | some s => .text s
  | none => .null

/-- The sort keys of a request, the most significant first.  There must be as
many fields as directions. -/
def sorts (p : Page α) : Except Failure (List SortKey) :=
  if !p.isOrderBySet then .ok []
  else if p.sortFields.length != p.directions.length then
    .error (.invalidArgument
      ("order has " ++ natText p.directions.length ++ " directions for " ++
        natText p.sortFields.length ++ " order_by fields")
      [("order_by", textOrNull p.orderBy), ("order", textOrNull (p.order.map orderText))])
  else .ok (List.zipWith SortKey.mk p.sortFields p.directions)

/-! ## Arithmetic -/

/-- The position of the first row of the page among all rows, counted from 1. -/
def first (p : Page α) : Int := (p.pageNo - 1) * p.pageSize + 1

/-- The number of pages, -1 when it is not known. -/
def totalPages (p : Page α) : Except Failure Int :=
  if p.totalCount < 0 || p.pageSize ≤ 0 then .ok (-1)
  else
    match ceilQuotient? p.totalCount.toNat p.pageSize.toNat with
    | some n => .ok n
    | none => .error .overflow

/-- There is a page before this one. -/
def hasPrevious (p : Page α) : Bool := 1 ≤ p.pageNo - 1

/-- There is a page after this one. -/
def hasNext (p : Page α) : Except Failure Bool :=
  match p.totalPages with
  | .ok n => .ok (p.pageNo + 1 ≤ n)
  | .error failure => .error failure

/-- The number of the page before this one, or of this one. -/
def previousPage (p : Page α) : Int := if p.hasPrevious then p.pageNo - 1 else p.pageNo

/-- The number of the page after this one, or of this one. -/
def nextPage (p : Page α) : Except Failure Int :=
  match p.hasNext with
  | .ok more => .ok (if more then p.pageNo + 1 else p.pageNo)
  | .error failure => .error failure

/-! ## Rows -/

/-- The same page with other rows. -/
def withRows (p : Page α) (rows : List β) : Page β where
  pageNo := p.pageNo
  pageSize := p.pageSize
  orderBy := p.orderBy
  order := p.order
  autoCount := p.autoCount
  result := rows
  totalCount := p.totalCount
  one_le_pageNo := p.one_le_pageNo

/-- The page with every row transformed. -/
def map (f : α → Except Failure β) (p : Page α) : Except Failure (Page β) :=
  match mapRows f p.result with
  | .ok rows => .ok (p.withRows rows)
  | .error failure => .error failure

/-- A short description of a page. -/
def describe (p : Page α) : String :=
  "Page(page_no=" ++ intText p.pageNo ++ ", page_size=" ++ intText p.pageSize ++
    ", total_count=" ++ intText p.totalCount ++ ", results=" ++
    natText p.result.length ++ ")"

@[simp]
theorem pageNo_setPageNo (p : Page α) (n : Int) : (p.setPageNo n).pageNo = max 1 n := rfl

theorem map_ok {f : α → Except Failure β} {p : Page α} {q : Page β}
    (h : p.map f = .ok q) : mapRows f p.result = .ok q.result ∧ q = p.withRows q.result := by
  unfold map at h
  split at h
  · rename_i rows hrows
    simp only [Except.ok.injEq] at h
    subst h
    exact ⟨hrows, rfl⟩
  · simp at h

end Page

end PagedQuery
