import PagedQuery.Failure
import PagedQuery.Text.Blank
import PagedQuery.Text.WordChar

/-!
# Count texts

The count of a query text is the text that counts the rows of its `from`
clause.  It is found by its keywords alone, as whole words in small letters: all
that stands from the only `from` up to an `order by` is kept.

Main results:

- Theorem `countText_starts`: a count text starts with its own select clause.
-/

namespace PagedQuery

open Numeric Text

/-! ## Keywords -/

/-- What follows a word at the start of a text, if it starts with that word. -/
def afterWord? (word : List Char) (cs : List Char) : Option (List Char) :=
  if word.isPrefixOf cs then some (cs.drop word.length) else none

/-- No word goes on at the start of a text. -/
def atWordEnd : List Char → Bool
  | [] => true
  | c :: _ => !isWordChar c

/-- A text starts with the word `from`. -/
def startsFrom (cs : List Char) : Bool :=
  match afterWord? ['f', 'r', 'o', 'm'] cs with
  | some rest => atWordEnd rest
  | none => false

/-- A text starts with the words `order` and `by`, with blanks in between. -/
def startsOrderBy (cs : List Char) : Bool :=
  match afterWord? ['o', 'r', 'd', 'e', 'r'] cs with
  | none => false
  | some rest =>
      (match rest with
        | c :: _ => isBlank c
        | [] => false) &&
        match afterWord? ['b', 'y'] (rest.dropWhile isBlank) with
        | some rest => atWordEnd rest
        | none => false

/-- The positions at which a keyword starts, counted from `position`, where no
word goes on from the left. -/
def keywordStarts (starts : List Char → Bool) (position : Nat) (inWord : Bool) :
    List Char → List Nat
  | [] => []
  | c :: cs =>
      let more := keywordStarts starts (position + 1) (isWordChar c) cs
      if !inWord && starts (c :: cs) then position :: more else more

/-- The positions of the word `from`. -/
def fromStarts (cs : List Char) : List Nat := keywordStarts startsFrom 0 false cs

/-- The positions of the words `order by`. -/
def orderByStarts (cs : List Char) : List Nat := keywordStarts startsOrderBy 0 false cs

/-! ## The count of a query text -/

/-- Why the rows of a query text cannot be counted. -/
inductive CountRejection where
  | noFrom
  | nested
  | orderByFirst
  deriving DecidableEq, Repr

/-- The wording of a rejection. -/
def CountRejection.message : CountRejection → String
  | noFrom => "query has no 'from' clause to count over"
  | nested => "query with nested 'from' or 'order by' cannot be auto counted"
  | orderByFirst => "query has 'order by' before 'from'"

/-- The select clause of a count text. -/
def countSelect : List Char := "select count(*) ".toList

/-- The count text of a query text, as characters. -/
def countChars (cs : List Char) : Except CountRejection (List Char) :=
  match fromStarts cs, orderByStarts cs with
  | [], _ => .error .noFrom
  | [start], [] => .ok (countSelect ++ cs.drop start)
  | [start], [stop] =>
      if stop < start then .error .orderByFirst
      else .ok (countSelect ++ (cs.take stop).drop start)
  | _, _ => .error .nested

/-- The count text of a query text. -/
def countText (text : String) : Except Failure String :=
  match countChars text.toList with
  | .ok cs => .ok (.ofList cs)
  | .error rejection => .error (.unsupportedQuery rejection.message text)

/-! ## Bindings -/

/-- The number of positional placeholders of a query text. -/
def placeholders (text : String) : Nat := text.toList.count '?'

/-- Positional values must find a placeholder each, and do not go together with
named ones. -/
def checkBindings (text : String) (values : List Value) (params : Entries) :
    Except Failure Unit :=
  if !values.isEmpty && !params.isEmpty then
    .error (.invalidArgument "bind either positional values or named params, not both"
      [("query_text", .text text)])
  else if placeholders text < values.length then
    .error (.invalidArgument
      ("query has " ++ natText (placeholders text) ++ " placeholders but " ++
        natText values.length ++ " values were given")
      [("query_text", .text text), ("placeholders", .int (placeholders text)),
        ("values", .int values.length)])
  else .ok ()

theorem countText_starts {cs ds : List Char} (h : countChars cs = .ok ds) :
    countSelect <+: ds := by
  unfold countChars at h
  split at h
  · simp at h
  · simp only [Except.ok.injEq] at h
    exact ⟨_, h⟩
  · split at h
    · simp at h
    · simp only [Except.ok.injEq] at h
      exact ⟨_, h⟩
  · simp at h

end PagedQuery
