import PagedQuery.Value.Basic

/-!
# Property filters

A filter compares one or more properties with one value.  It says how to
compare, which kind of value the request text stands for, and which properties
are meant; a row passes when one of them compares as wanted.

Main results:

- Theorem `MatchType.ofName?_name`: a match type is found again under its name.
- Theorem `PropertyType.ofLetter?_letter`: so is a property type under its
  letter.
-/

namespace PagedQuery

/-- How a property is compared with the value of a filter. -/
inductive MatchType where
  | eq
  | ne
  | gt
  | ge
  | lt
  | le
  | like
  deriving DecidableEq, Repr

namespace MatchType

/-- The written name of a match type. -/
def name : MatchType → String
  | eq => "EQ"
  | ne => "NE"
  | gt => "GT"
  | ge => "GE"
  | lt => "LT"
  | le => "LE"
  | like => "LIKE"

/-- All match types. -/
def every : List MatchType := [eq, ne, gt, ge, lt, le, like]

/-- The match type with a written name. -/
def ofName? (name : String) : Option MatchType := every.find? (·.name == name)

theorem ofName?_name (m : MatchType) : ofName? m.name = some m := by
  cases m <;> rfl

end MatchType

/-- The kind of value that the text of a filter stands for. -/
inductive PropertyType where
  | boolean
  | integer
  | float
  | double
  | long
  | string
  | date
  deriving DecidableEq, Repr

namespace PropertyType

/-- The letter of a property type inside a filter's name. -/
def letter : PropertyType → String
  | boolean => "B"
  | integer => "I"
  | float => "F"
  | double => "N"
  | long => "L"
  | string => "S"
  | date => "D"

/-- The name of a property type in messages. -/
def label : PropertyType → String
  | boolean => "Boolean"
  | integer => "Integer"
  | float => "Float"
  | double => "Double"
  | long => "Long"
  | string => "String"
  | date => "Date"

/-- The name of the kind of value that a property type reads. -/
def kindName : PropertyType → String
  | boolean => "bool"
  | integer | long => "int"
  | float | double => "float"
  | string => "str"
  | date => "datetime"

/-- All property types. -/
def every : List PropertyType := [boolean, integer, float, double, long, string, date]

/-- The property type with a letter. -/
def ofLetter? (letter : String) : Option PropertyType := every.find? (·.letter == letter)

theorem ofLetter?_letter (t : PropertyType) : ofLetter? t.letter = some t := by
  cases t <;> rfl

end PropertyType

/-- A filter on one or more properties. -/
structure PropertyFilter where
  matchType : MatchType
  propertyType : PropertyType
  names : List String
  value : Value
  names_ne_nil : names ≠ []

namespace PropertyFilter

/-- The filter names several properties. -/
def isMultiple (f : PropertyFilter) : Bool := 1 < f.names.length

end PropertyFilter

end PagedQuery
