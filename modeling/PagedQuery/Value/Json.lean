import PagedQuery.Value.Shown

/-!
# Values as JSON text

Values are written on one line, with a comma and a space between members and a
colon and a space behind names.  Only the quote, the backslash and the control
characters below the space are escaped.  Tuples become arrays and dates become
texts.

Main results:

- Theorem `escapeJsonChar_plain`: every other character is written as it is.
-/

namespace PagedQuery

open Numeric Text

/-- The written form of a character inside a JSON string. -/
def escapeJsonChar (c : Char) : List Char :=
  if c == '"' || c == '\\' then ['\\', c]
  else if c == '\n' then ['\\', 'n']
  else if c == '\r' then ['\\', 'r']
  else if c == '\t' then ['\\', 't']
  else if c.toNat == 8 then ['\\', 'b']
  else if c.toNat == 12 then ['\\', 'f']
  else if c.toNat < 32 then '\\' :: 'u' :: hexDigits 4 c.toNat
  else [c]

/-- A text as a JSON string, as characters. -/
def jsonStringChars (cs : List Char) : List Char :=
  '"' :: cs.flatMap escapeJsonChar ++ ['"']

/-- A text as a JSON string. -/
def jsonString (s : String) : String := .ofList (jsonStringChars s.toList)

namespace Value

/-- A double in JSON text, with the usual names for what JSON cannot write. -/
def jsonDouble : Double → String
  | .nan => "NaN"
  | .infinity true => "-Infinity"
  | .infinity false => "Infinity"
  | x => doubleText x

mutual
/-- A value as JSON text. -/
def json : Value → String
  | null => "null"
  | bool true => "true"
  | bool false => "false"
  | int n => intText n
  | double x => jsonDouble x
  | text s => jsonString s
  | date d => jsonString d.text
  | list items => "[" ++ commaSeparated (jsonItems items) ++ "]"
  | tuple items => "[" ++ commaSeparated (jsonItems items) ++ "]"
  | mapping entries => "\x7b" ++ commaSeparated (jsonEntries entries) ++ "\x7d"
  | object attributes _ => jsonString (object attributes).shown

/-- The written items of an array. -/
def jsonItems : List Value → List String
  | [] => []
  | item :: items => json item :: jsonItems items

/-- The written members of an object. -/
def jsonEntries : Entries → List String
  | [] => []
  | (name, value) :: entries => (jsonString name ++ ": " ++ json value) :: jsonEntries entries
end

end Value

theorem escapeJsonChar_plain {c : Char} (h : 32 ≤ c.toNat) (hq : c ≠ '"')
    (hb : c ≠ '\\') : escapeJsonChar c = [c] := by
  have hn : c ≠ '\n' := fun e => by subst e; revert h; decide
  have hr : c ≠ '\r' := fun e => by subst e; revert h; decide
  have ht : c ≠ '\t' := fun e => by subst e; revert h; decide
  have h8 : c.toNat ≠ 8 := by omega
  have h12 : c.toNat ≠ 12 := by omega
  have h32 : ¬c.toNat < 32 := by omega
  simp [escapeJsonChar, hq, hb, hn, hr, ht, h8, h12, h32]

end PagedQuery
