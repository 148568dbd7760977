import PagedQuery.Calendar.DateTime
import PagedQuery.Text.Blank
import PagedQuery.Text.DecimalDigit

/-!
# Reading dates

A date is read by a format: a list of pieces such as a year of four digits or a
month of one or two.  Each piece offers its readings in order of preference;
the first combination under which all pieces fit decides, and it must use up
the text.

Main results:

- Theorem `read_isValid`: whatever is read exists in the calendar.
-/

namespace PagedQuery
namespace Calendar

open Numeric Text

/-- One possible reading of a piece: its number and the characters left. -/
abbrev Reading := Nat × List Char

/-- A piece of a date format. -/
inductive Piece where
  | year
  | month
  | day
  | hour
  | minute
  | second
  /-- A character that stands for itself. -/
  | mark (c : Char)
  /-- One or more blanks. -/
  | gap
  deriving DecidableEq, Repr

/-- A number of two digits, the first an ASCII one within bounds, the second of
any script within bounds. -/
def twoDigits (low high : Char) (accept : Char → Bool) : List Char → List Reading
  | a :: b :: rest =>
      if low ≤ a && a ≤ high && accept b then
        match decimalDigit? b with
        | some d => [(10 * digitValue a + d, rest)]
        | none => []
      else []
  | _ => []

/-- A number of one digit. -/
def oneDigit (accept : Char → Bool) : List Char → List Reading
  | a :: rest =>
      if accept a then
        match decimalDigit? a with
        | some d => [(d, rest)]
        | none => []
      else []
  | [] => []

/-- ASCII digits within bounds. -/
def digitBetween (low high : Char) (c : Char) : Bool := low ≤ c && c ≤ high

/-- The ways to pass over one or more blanks, the longest first. -/
def gaps : List Char → List Reading
  | c :: rest => if isBlank c then gaps rest ++ [(0, rest)] else []
  | [] => []

/-- A space followed by a digit from 1 to 9. -/
def spacedDigit : List Char → List Reading
  | ' ' :: rest => oneDigit (digitBetween '1' '9') rest
  | _ => []

/-- Four digits of any script. -/
def fourDigits : List Char → List Reading
  | a :: b :: c :: d :: rest =>
      match decimalDigit? a, decimalDigit? b, decimalDigit? c, decimalDigit? d with
      | some a, some b, some c, some d => [(1000 * a + 100 * b + 10 * c + d, rest)]
      | _, _, _, _ => []
  | _ => []

/-- The readings of a piece at the start of a text, in order of preference. -/
def Piece.readings : Piece → List Char → List Reading
  | .year, cs => fourDigits cs
  | .month, cs =>
      twoDigits '1' '1' (digitBetween '0' '2') cs ++
        twoDigits '0' '0' (digitBetween '1' '9') cs ++ oneDigit (digitBetween '1' '9') cs
  | .day, cs =>
      twoDigits '3' '3' (digitBetween '0' '1') cs ++ twoDigits '1' '2' isDecimalDigit cs ++
        twoDigits '0' '0' (digitBetween '1' '9') cs ++
        oneDigit (digitBetween '1' '9') cs ++ spacedDigit cs
  | .hour, cs =>
      twoDigits '2' '2' (digitBetween '0' '3') cs ++ twoDigits '0' '1' isDecimalDigit cs ++
        oneDigit isDecimalDigit cs
  | .minute, cs => twoDigits '0' '5' isDecimalDigit cs ++ oneDigit isDecimalDigit cs
  | .second, cs =>
      twoDigits '6' '6' (digitBetween '0' '1') cs ++ twoDigits '0' '5' isDecimalDigit cs ++
        oneDigit isDecimalDigit cs
  | .mark c, a :: rest => if a == c then [(0, rest)] else []
  | .mark _, [] => []
  | .gap, cs => gaps cs

/-- Enter the number read for a piece. -/
def Piece.enter (piece : Piece) (n : Nat) (d : DateTime) : DateTime :=
  match piece with
  | .year => { d with year := n }
  | .month => { d with month := n }
  | .day => { d with day := n }
  | .hour => { d with hour := n }
  | .minute => { d with minute := n }
  | .second => { d with second := n }
  | .mark _ | .gap => d

/-- The readings of a whole format, in order of preference. -/
def readPieces : List Piece → DateTime → List Char → List (DateTime × List Char)
  | [], d, cs => [(d, cs)]
  | piece :: pieces, d, cs =>
      (piece.readings cs).flatMap fun r => readPieces pieces (piece.enter r.1 d) r.2

/-- A date without a time of day. -/
def dateFormat : List Piece := [.year, .mark '-', .month, .mark '-', .day]

/-- A date with a time of day to the second. -/
def dateTimeFormat : List Piece :=
  dateFormat ++ [.gap, .hour, .mark ':', .minute, .mark ':', .second]

/-- Midnight of the first day of the calendar: what a format leaves open. -/
def firstMidnight : DateTime where
  year := 1
  month := 1
  day := 1
  hour := 0
  minute := 0
  second := 0

/-- Read a text by a format.  The preferred reading must leave nothing over and
exist in the calendar. -/
def readBy? (format : List Piece) (cs : List Char) : Option DateTime :=
  match (readPieces format firstMidnight cs).head? with
  | some (d, []) => if d.isValid then some d else none
  | _ => none

/-- Read a date, or a date with a time of day. -/
def read? (cs : List Char) : Option DateTime :=
  match readBy? dateFormat cs with
  | some d => some d
  | none => readBy? dateTimeFormat cs

theorem readBy?_isValid {format : List Piece} {cs : List Char} {d : DateTime}
    (h : readBy? format cs = some d) : d.isValid = true := by
  unfold readBy? at h
  split at h
  · split at h
    · rename_i hv
      simp only [Option.some.injEq] at h
      exact h ▸ hv
    · simp at h
  · simp at h

theorem read_isValid {cs : List Char} {d : DateTime} (h : read? cs = some d) :
    d.isValid = true := by
  unfold read? at h
  split at h
  · rename_i e he
    simp only [Option.some.injEq] at h
    exact h ▸ readBy?_isValid he
  · exact readBy?_isValid h

end Calendar
end PagedQuery
