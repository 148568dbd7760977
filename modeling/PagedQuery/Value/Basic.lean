import PagedQuery.Calendar.DateTime
import PagedQuery.Numeric.Double

/-!
# Property values

Rows, filter values and error details carry values of many kinds.  A value is
nothing, a truth value, a number, a text, a date, a sequence, or a collection of
named values: a mapping, or an object read by attribute.  An object that stands
at several places carries a label by which it is known as the same one.
-/

namespace PagedQuery

/-- A value of a property.  The label of an object tells it apart from others
with the same attributes. -/
inductive Value where
  | null
  | bool (b : Bool)
  | int (n : Int)
  | double (x : Numeric.Double)
  | text (s : String)
  | date (d : Calendar.DateTime)
  | list (items : List Value)
  | tuple (items : List Value)
  | mapping (entries : List (String × Value))
  | object (attributes : List (String × Value)) (label : Option Nat := none)
  deriving Inhabited

/-- Named values in order, each name at most once. -/
abbrev Entries := List (String × Value)

/-- Set the value of a name: in place when the name is there, else at the
end. -/
def putEntry {α : Type} (name : String) (value : α) : List (String × α) → List (String × α)
  | [] => [(name, value)]
  | (key, old) :: rest =>
      if key == name then (key, value) :: rest else (key, old) :: putEntry name value rest

/-- Set several names, one after another. -/
def putEntries {α : Type} (entries more : List (String × α)) : List (String × α) :=
  more.foldl (fun all entry => putEntry entry.1 entry.2 all) entries

namespace Value

/-- The number that a value is, a truth value counting as 0 or 1. -/
def number? : Value → Option Numeric.Number
  | bool b => some (.whole (if b then 1 else 0))
  | int n => some (.whole n)
  | double x => some (.double x)
  | _ => none

/-- The parts of a whole number, as a fraction and as a complex number. -/
def wholePart? (n : Int) : String → Option Value
  | "real" | "numerator" => some (int n)
  | "imag" => some (int 0)
  | "denominator" => some (int 1)
  | _ => none

/-- The parts of a double as a complex number. -/
def doublePart? (x : Numeric.Double) : String → Option Value
  | "real" => some (double x)
  | "imag" => some (double (.finite false 0))
  | _ => none

/-- The parts of a date that are values, and the ends of all dates. -/
def datePart? (d : Calendar.DateTime) : String → Option Value
  | "year" => some (int d.year)
  | "month" => some (int d.month)
  | "day" => some (int d.day)
  | "hour" => some (int d.hour)
  | "minute" => some (int d.minute)
  | "second" => some (int d.second)
  | "microsecond" => some (int d.microsecond)
  | "fold" => some (int 0)
  | "min" => some (date ⟨1, 1, 1, 0, 0, 0, 0, none⟩)
  | "max" => some (date ⟨9999, 12, 31, 23, 59, 59, 999999, none⟩)
  | _ => none

/-- The name under which an object gives all its attributes. -/
def allAttributes : String := "__dict__"

/-- The name under which a value tells its class. -/
def classAttribute : String := "__class__"

/-- The value of a property of a row, nothing when the row does not have it.
Rows are data: the properties of an object are the attributes stored in it, so
that reading one computes nothing and cannot fail.  Numbers and dates have their
parts as properties. -/
def property (row : Value) (name : String) : Value :=
  match row with
  | mapping entries => (entries.lookup name).getD null
  | object attributes _ =>
      if name == allAttributes then mapping attributes else (attributes.lookup name).getD null
  | bool b => (wholePart? (if b then 1 else 0) name).getD null
  | int n => (wholePart? n name).getD null
  | double x => (doublePart? x name).getD null
  | date d => (datePart? d name).getD null
  | _ => null

/-- The value is nothing. -/
def isNull : Value → Bool
  | null => true
  | _ => false

/-- The value is a text. -/
def isText : Value → Bool
  | text _ => true
  | _ => false

/-- The label of an object. -/
def label? : Value → Option Nat
  | object _ label => label
  | _ => none

/-- An object with a label, unless it has one already. -/
def labelled (label : Nat) : Value → Value
  | object attributes none => object attributes (some label)
  | value => value

/-- The name of a value's kind, as messages show it. -/
def kindName : Value → String
  | null => "NoneType"
  | bool _ => "bool"
  | int _ => "int"
  | double _ => "float"
  | text _ => "str"
  | date _ => "datetime"
  | list _ => "list"
  | tuple _ => "tuple"
  | mapping _ => "dict"
  | object _ _ => "SimpleNamespace"

/-- The first column of a result row: of a tuple its first item, of anything
else the row itself. -/
def firstColumn : Value → Value
  | tuple [] => null
  | tuple (item :: _) => item
  | row => row

end Value

theorem lookup_putEntry_self {α : Type} (name : String) (value : α)
    (entries : List (String × α)) :
    (putEntry name value entries).lookup name = some value := by
  induction entries with
  | nil => simp [putEntry]
  | cons entry entries ih =>
      obtain ⟨key, old⟩ := entry
      unfold putEntry
      split
      · rename_i h
        have h : key = name := by simpa using h
        simp [h]
      · rename_i h
        have h : (name == key) = false := by
          have : ¬key = name := by simpa using h
          simpa using fun e : name = key => this e.symm
        simp [List.lookup_cons, h, ih]

/-- Setting a name changes what is found under that name only. -/
theorem lookup_putEntry {α : Type} {name other : String} (hne : other ≠ name) (value : α)
    (entries : List (String × α)) :
    (putEntry name value entries).lookup other = entries.lookup other := by
  have hother : (other == name) = false := by simpa using hne
  induction entries with
  | nil => rw [putEntry, List.lookup_cons, hother]
  | cons entry entries ih =>
      obtain ⟨key, old⟩ := entry
      rw [putEntry]
      split
      · rename_i hkey
        rw [beq_iff_eq.1 hkey, List.lookup_cons, List.lookup_cons, hother]
      · rw [List.lookup_cons, List.lookup_cons, ih]

end PagedQuery
