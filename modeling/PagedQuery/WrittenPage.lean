import PagedQuery.Action
import PagedQuery.Page

/-!
# Pages with their texts

On the outside a page has an order text.  It is split, checked and written again in lower case
when it is assigned, and split once more whenever the sort keys are asked for.  Nothing is
promised of the number of such a page but what an assignment does to it, and mapping a page
makes a new one from its texts.

Main results:

- Theorem `pageTokens_some`: a page reads the items of a comma list.
-/

namespace PagedQuery

open Numeric Text

/-! ## Texts of a page -/

/-- What a page reads of a text that it may have been given: nothing of none and of an empty one,
and otherwise the pieces between commas that are not blank, without the blanks around them. -/
def pageTokens : Option String → List String
  | none => []
  | some text =>
      if text.isEmpty then []
      else
        ((splitOn ',' text.toList).filter fun piece => !(stripChars piece).isEmpty).map
          fun piece => .ofList (stripChars piece)

/-- An empty text is one blank piece, so a page need not have looked for it. -/
@[simp]
theorem pageTokens_some (text : String) : pageTokens (some text) = commaFields text := by
  rw [pageTokens]
  split
  · rename_i hempty
    rw [String.isEmpty_iff.1 hempty]
    rfl
  · rw [commaFields_filter]

/-- The token is the name of a direction. -/
def IsDirectionName (token : String) : Prop := token = "asc" ∨ token = "desc"

instance (token : String) : Decidable (IsDirectionName token) :=
  inferInstanceAs (Decidable (token = "asc" ∨ token = "desc"))

/-- The first token that names no direction is reported. -/
def checkTokens (order : String) : List String → Except Failure Unit
  | [] => .ok ()
  | token :: tokens =>
      if ¬IsDirectionName token then
        .error (.invalidArgument ("order token " ++ token ++ " is invalid")
          [("token", .text token), ("order", .text order)])
      else checkTokens order tokens

/-- The normal form of an order text: its tokens in lower case, without blanks. -/
def normalOrder (order : String) : Except Failure String :=
  let tokens := (pageTokens (some order)).map lowerText
  match checkTokens order tokens with
  | .ok () => .ok (joinTexts "," tokens)
  | .error failure => .error failure

/-! ## Pages -/

/-- A page as it is seen from outside: its order is a text, and nothing is promised of its
number. -/
structure WrittenPage (α : Type) extends PageRequest where
  result : List α
  /-- The number of all matching rows, -1 until they have been counted. -/
  totalCount : Int

/-- The written form of a page. -/
def Page.written {α : Type} (p : Page α) : WrittenPage α where
  pageSize := p.pageSize
  pageNo := p.pageNo
  orderBy := p.orderBy
  order := p.order.map orderText
  autoCount := p.autoCount
  result := p.result
  totalCount := p.totalCount

namespace WrittenPage

variable {α β : Type}

/-- A page without rows, made from a request. -/
def make (r : PageRequest) : Except Failure (WrittenPage α) :=
  let unordered : WrittenPage α :=
    { r with pageNo := max 1 r.pageNo, order := none, result := [], totalCount := -1 }
  match r.order with
  | none => .ok unordered
  | some text =>
      match normalOrder text with
      | .ok order => .ok { unordered with order := some order }
      | .error failure => .error failure

/-- Change one field.  An order is checked before anything is changed. -/
def assign : Page.Assignment α → Action (WrittenPage α) Unit
  | .pageNo n => .change fun w => { w with pageNo := max 1 n }
  | .pageSize n => .change fun w => { w with pageSize := n }
  | .orderBy fields => .change fun w => { w with orderBy := fields }
  | .order none => .change fun w => { w with order := none }
  | .order (some text) => do
      let order ← .ofExcept (normalOrder text)
      .change fun w => { w with order := some order }
  | .autoCount on => .change fun w => { w with autoCount := on }
  | .result rows => .change fun w => { w with result := rows }
  | .totalCount n => .change fun w => { w with totalCount := n }

/-- A new page made from the same request, with every row transformed. -/
def map (f : α → Except Failure β) (w : WrittenPage α) : Except Failure (WrittenPage β) :=
  match (make w.toPageRequest : Except Failure (WrittenPage β)) with
  | .error failure => .error failure
  | .ok made =>
      match mapRows f w.result with
      | .error failure => .error failure
      | .ok rows => .ok { made with result := rows, totalCount := w.totalCount }

/-- Map the page at hand to a new page. -/
def mapping (f : α → Except Failure β) : Action (WrittenPage α) (WrittenPage β) := do
  let w ← .state
  .ofExcept (w.map f)

/-- The fields to sort by. -/
def sortFields (w : WrittenPage α) : List String := pageTokens w.orderBy

/-- The tokens of the order text. -/
def orderTokens (w : WrittenPage α) : List String := pageTokens w.order

/-- Fields and tokens one by one; a token that names no direction is not read. -/
def pairKeys : List String → List String → Except Failure (List SortKey)
  | field :: fields, token :: tokens =>
      match Direction.ofName? token with
      | none => .error (.unfit (quoted token ++ " is not a valid SortDirection"))
      | some direction =>
          match pairKeys fields tokens with
          | .error failure => .error failure
          | .ok keys => .ok (⟨field, direction⟩ :: keys)
  | _, _ => .ok []

/-- The sort keys, read from the texts of the fields and of the order. -/
def sorts (w : WrittenPage α) : Except Failure (List SortKey) :=
  if w.sortFields.isEmpty || w.orderTokens.isEmpty then .ok []
  else if w.sortFields.length != w.orderTokens.length then
    .error (.invalidArgument
      ("order has " ++ natText w.orderTokens.length ++ " directions for " ++
        natText w.sortFields.length ++ " order_by fields")
      [("order_by", Page.textOrNull w.orderBy), ("order", Page.textOrNull w.order)])
  else pairKeys w.sortFields w.orderTokens

end WrittenPage

end PagedQuery
