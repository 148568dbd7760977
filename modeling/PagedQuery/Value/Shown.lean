import PagedQuery.Numeric.Decimal
import PagedQuery.Text.Fields
import PagedQuery.Text.Quoted
import PagedQuery.Value.Basic

/-!
# Values in messages

A value inside a message is shown so that its kind can be seen: texts stand
between quotes, sequences in brackets, mappings in braces.
-/

namespace PagedQuery
namespace Value

open Numeric Text

/-- Items separated by commas. -/
def commaSeparated (items : List String) : String := joinTexts ", " items

/-- A span of time, shown by its days, seconds and microseconds; those that are
zero are left out. -/
def shownSpan (microseconds : Int) : String :=
  let day : Int := Calendar.microsecondsPerDay
  let parts := [("days=", microseconds / day), ("seconds=", microseconds % day / 1000000),
    ("microseconds=", microseconds % 1000000)].filter (·.2 != 0)
  "datetime.timedelta(" ++
    (if parts.isEmpty then "0" else commaSeparated (parts.map fun p => p.1 ++ intText p.2)) ++
    ")"

/-- The zone of an offset. -/
def shownZone (offset : Int) : String :=
  if offset == 0 then "datetime.timezone.utc"
  else "datetime.timezone(" ++ shownSpan offset ++ ")"

/-- A date, shown by its numbers; the microsecond, and then the second, is left
out when it is zero. -/
def shownDate (d : Calendar.DateTime) : String :=
  let numbers := [d.year, d.month, d.day, d.hour, d.minute] ++
    (if d.microsecond != 0 then [d.second, d.microsecond]
      else if d.second != 0 then [d.second] else [])
  let zone := d.offset.toList.map fun offset => "tzinfo=" ++ shownZone offset
  "datetime.datetime(" ++ commaSeparated (numbers.map natText ++ zone) ++ ")"

mutual
/-- A value as it is shown inside a message. -/
def shown : Value → String
  | null => "None"
  | bool true => "True"
  | bool false => "False"
  | int n => intText n
  | double x => doubleText x
  | text s => quoted s
  | date d => shownDate d
  | list items => "[" ++ commaSeparated (shownItems items) ++ "]"
  | tuple [item] => "(" ++ shown item ++ ",)"
  | tuple items => "(" ++ commaSeparated (shownItems items) ++ ")"
  | mapping entries => "\x7b" ++ commaSeparated (shownEntries entries) ++ "\x7d"
  | object attributes _ => "namespace(" ++ commaSeparated (shownAttributes attributes) ++ ")"

/-- The shown items of a sequence. -/
def shownItems : List Value → List String
  | [] => []
  | item :: items => shown item :: shownItems items

/-- The shown entries of a mapping. -/
def shownEntries : Entries → List String
  | [] => []
  | (name, value) :: entries => (quoted name ++ ": " ++ shown value) :: shownEntries entries

/-- The shown attributes of an object; one without a name is left out. -/
def shownAttributes : Entries → List String
  | [] => []
  | (name, value) :: entries =>
      if name == "" then shownAttributes entries
      else (name ++ "=" ++ shown value) :: shownAttributes entries
end

/-- A value as text: a text is itself and a date is written out; anything else
is shown as inside a message. -/
def plain : Value → String
  | text s => s
  | date d => d.text
  | value => value.shown

end Value
end PagedQuery
