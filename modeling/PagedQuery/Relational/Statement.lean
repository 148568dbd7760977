import PagedQuery.Query.Text

/-!
# Statements of text queries

A text query becomes a statement in which every placeholder has a name of its
own: the positional ones are numbered in the order of the text.  A limit is
appended to the text.

Main results:

- Theorem `numberPlaceholders_of_not_mem`: a text without placeholders stays as
  it is.
- Theorem `ofTextQuery_unsliced`: without a slice only the placeholders change.
- Theorem `ofTextQuery_limited`: with a limit the clause of the slice is appended.
-/

namespace PagedQuery
namespace Relational

open Numeric Text

/-- A statement and the values of its named placeholders. -/
structure Statement where
  sql : String
  params : Entries

/-- The name of the positional placeholder with a number. -/
def placeholderName (index : Int) : List Char := '_' :: 'p' :: intChars index

/-- A text with its placeholders named, numbered from `next` on. -/
def numberPlaceholders (next : Nat) : List Char → List Char
  | [] => []
  | c :: cs =>
      if c == '?' then ':' :: placeholderName next ++ numberPlaceholders (next + 1) cs
      else c :: numberPlaceholders next cs

/-- The values of a text query by the names of their placeholders; values bound
by name take precedence. -/
def statementParams (q : TextQuery) : Entries :=
  putEntries (q.positional.map fun entry => (.ofList (placeholderName entry.1), entry.2))
    q.named

/-- What is appended to the text of a statement with a limit. -/
def limitClause : List Char := " LIMIT :_limit OFFSET :_offset".toList

/-- The offset that is sent with a limit; without one it is zero. -/
def sentOffset (offset : Option Amount) : Value :=
  match offset.filter fun a => !a.isZero with
  | none => .int 0
  | some a => a.toValue

/-- The statement of a text query.  An offset needs a limit. -/
def Statement.ofTextQuery (q : TextQuery) : Except Failure Statement :=
  let numbered := numberPlaceholders 0 q.text.toList
  match q.limit with
  | none =>
      if q.offset.any fun a => !a.isZero then
        .error (.invalidArgument "offset without a limit is not supported for text queries"
          [("query_text", .text q.text)])
      else .ok ⟨.ofList numbered, statementParams q⟩
  | some limit =>
      .ok ⟨.ofList (stripEnd numbered ++ limitClause),
        putEntries (statementParams q)
          [("_limit", limit.toValue), ("_offset", sentOffset q.offset)]⟩

theorem numberPlaceholders_of_not_mem {cs : List Char} (h : '?' ∉ cs) (next : Nat) :
    numberPlaceholders next cs = cs := by
  induction cs with
  | nil => rfl
  | cons c cs ih =>
      have hc : c ≠ '?' := fun e => h (e ▸ List.mem_cons_self)
      have hcs : '?' ∉ cs := fun e => h (List.mem_cons_of_mem c e)
      simp [numberPlaceholders, hc, ih hcs]

theorem ofTextQuery_unsliced {q : TextQuery} (hl : q.limit = none) (ho : q.offset = none) :
    Statement.ofTextQuery q =
      .ok ⟨.ofList (numberPlaceholders 0 q.text.toList), statementParams q⟩ := by
  simp [Statement.ofTextQuery, hl, ho]

theorem ofTextQuery_limited {q : TextQuery} {limit : Amount} (hl : q.limit = some limit) :
    Statement.ofTextQuery q =
      .ok ⟨.ofList (stripEnd (numberPlaceholders 0 q.text.toList) ++ limitClause),
        putEntries (statementParams q)
          [("_limit", limit.toValue), ("_offset", sentOffset q.offset)]⟩ := by
  simp [Statement.ofTextQuery, hl]

end Relational
end PagedQuery
