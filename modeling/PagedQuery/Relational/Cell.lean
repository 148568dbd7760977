import PagedQuery.Failure
import PagedQuery.Relational.Real
import PagedQuery.Value.Whole

/-!
# Cells of a table

A table stores nothing, whole numbers of 64 bits, doubles and texts.  Each
column prefers one kind: what is stored in it, and what it is compared with, is
brought to that kind where this loses nothing.

Main results:

- Theorem `bind_text`: a text is sent as it is.
- Theorem `accepts_opposite`: the opposite relation holds where a relation does not.
- Theorem `compareCells_null`: no comparison with nothing has an answer.
- Theorem `order_integer`: whole numbers are ordered as integers.
-/

namespace PagedQuery
namespace Relational

open Numeric Text

/-- What a table stores at one place. -/
inductive Cell where
  | null
  | integer (n : Int)
  | real (x : Double)
  | text (s : String)
  deriving DecidableEq, Repr, Inhabited

/-- The kind of value that a column prefers. -/
inductive ColumnKind where
  | integer
  | text
  deriving DecidableEq, Repr

/-- The whole numbers that a table can store. -/
def fitsInteger (n : Int) : Bool := -(2 ^ 63) ≤ n && n < 2 ^ 63

namespace Cell

/-- A double as a cell; a NaN is stored as nothing. -/
def ofDouble : Double → Cell
  | .nan => null
  | x => real x

/-- The value of a cell. -/
def toValue : Cell → Value
  | null => .null
  | integer n => .int n
  | real x => .double x
  | text s => .text s

/-- The number in a cell. -/
def number? : Cell → Option Number
  | integer n => some (.whole n)
  | real x => some (.double x)
  | _ => none

/-- The text that a cell is searched in. -/
def toText? : Cell → Option String
  | null => none
  | integer n => some (intText n)
  | real x => some (realText x)
  | text s => some s

/-! ## Kinds of columns -/

/-- A double without a fraction becomes a whole number where it can be stored,
the least one apart. -/
def ofReal (x : Double) : Cell :=
  match x.truncate? with
  | some n =>
      let whole := Number.compare? (.whole n) (.double x) == some .eq
      if whole && fitsInteger n && n != -(2 ^ 63) then integer n else real x
  | none => real x

/-- A text that is written like a number, as that number.  Only digits with a
sign are read as a whole number. -/
def numeric? (s : String) : Option Cell :=
  let cs := stripBoth isAsciiSpace s.toList
  match Coercion.readDecimal? cs with
  | none => none
  | some d =>
      let n := Coercion.signed d.negative (digitsValue d.digits)
      if (Coercion.splitSign cs).2.all isAsciiDigit && fitsInteger n then some (integer n)
      else some (ofReal (readReal d))

/-- Bring a cell to the kind that a column prefers, where nothing is lost. -/
def towards (kind : ColumnKind) (c : Cell) : Cell :=
  match kind, c with
  | .integer, text s => (numeric? s).getD (text s)
  | .integer, real x => ofReal x
  | .text, integer n => text (intText n)
  | .text, real x => text (realText x)
  | _, c => c

/-! ## Order -/

/-- The order of all cells: nothing, then numbers, then texts by code point. -/
def order : Cell → Cell → Ordering
  | null, null => .eq
  | null, _ => .lt
  | _, null => .gt
  | text s, text t => Ord.compare s t
  | text _, _ => .gt
  | _, text _ => .lt
  | a, b =>
      match a.number?, b.number? with
      | some x, some y => (x.compare? y).getD .eq
      | _, _ => .eq

@[simp]
theorem order_integer (m n : Int) : order (integer m) (integer n) = Ord.compare m n := rfl

@[simp]
theorem order_text (s t : String) : order (text s) (text t) = Ord.compare s t := rfl

end Cell

/-! ## Sending values -/

/-- What is sent to the database for a value.  Only values of a known kind can
be sent, and only whole numbers of 64 bits. -/
def sendValue (dateText : Calendar.DateTime → String) : Value → Except Failure Cell
  | .null => .ok .null
  | .bool b => .ok (.integer (if b then 1 else 0))
  | .int n => if fitsInteger n then .ok (.integer n) else .error .overflow
  | .double x => .ok (.ofDouble x)
  | .text s => .ok (.text s)
  | .date d => .ok (.text (dateText d))
  | _ => .error (.engine .binding)

/-- What is sent for a value that a column is compared with; dates have six
places behind the second and no offset. -/
def bindValue (v : Value) : Except Failure Cell := sendValue Calendar.DateTime.clockText v

/-- What is sent for a value to store. -/
def storeValue (v : Value) : Except Failure Cell := sendValue Calendar.DateTime.text v

/-! ## Comparing a column -/

/-- The comparisons of a column with a value. -/
inductive Relation where
  | eq
  | ne
  | gt
  | ge
  | lt
  | le
  deriving DecidableEq, Repr

/-- The relation holds between two cells that stand in an order. -/
def Relation.accepts : Relation → Ordering → Bool
  | eq, o => o == .eq
  | ne, o => o != .eq
  | gt, o => o == .gt
  | ge, o => o != .lt
  | lt, o => o == .lt
  | le, o => o != .gt

/-- The relation that holds exactly where another one does not. -/
def Relation.opposite : Relation → Relation
  | eq => ne
  | ne => eq
  | gt => le
  | ge => lt
  | lt => ge
  | le => gt

/-- Compare the cell of a column with a sent cell.  With nothing on either side
there is no answer. -/
def compareCells (kind : ColumnKind) (relation : Relation) (stored sent : Cell) :
    Option Bool :=
  let sent := sent.towards kind
  if stored == .null || sent == .null then none
  else some (relation.accepts (stored.order sent))

theorem bind_text (s : String) : bindValue (.text s) = .ok (.text s) := rfl

theorem accepts_opposite (relation : Relation) (o : Ordering) :
    relation.opposite.accepts o = !relation.accepts o := by
  cases relation <;> cases o <;> rfl

theorem compareCells_null (kind : ColumnKind) (relation : Relation) (sent : Cell) :
    compareCells kind relation .null sent = none := by
  simp [compareCells]

end Relational
end PagedQuery
