import PagedQuery.Coercion
import PagedQuery.Failure
import PagedQuery.Text.DecimalDigit

/-!
# Values as whole numbers and as rows

Backends answer counts and updates with values of any kind.  A number is cut
off to a whole one, and a text is read more generously than a setting: digits
of all scripts count, and single low lines may group them.  An answer with rows
is anything that has items.
-/

namespace PagedQuery

open Numeric Text

/-! ## Numerals in answers -/

/-- The ASCII blanks around a numeral. -/
def isAsciiSpace (c : Char) : Bool :=
  c == ' ' || (0x09 ≤ c.toNat && c.toNat ≤ 0x0D)

/-- A blank that may stand around the numeral of an answer: the ASCII spaces,
and every blank beyond ASCII, but not the ASCII separators. -/
def isNumeralBlank (c : Char) : Bool :=
  isAsciiSpace c || (0x80 ≤ c.toNat && isBlank c)

/-- What the scan of digits found. -/
inductive DigitRun where
  /-- The digits that were read, and what follows them. -/
  | digits (values : List Nat) (rest : List Char)
  /-- A low line that does not stand between two digits. -/
  | stray
  deriving Repr

/-- Scan digits of any script, with single low lines between them.  The flag
says that a digit has just been read. -/
def scanDigits (afterDigit : Bool) : List Char → DigitRun
  | [] => if afterDigit then .digits [] [] else .stray
  | c :: cs =>
      match decimalDigit? c with
      | some d =>
          match scanDigits true cs with
          | .digits values rest => .digits (d :: values) rest
          | .stray => .stray
      | none =>
          if !afterDigit then .stray
          else if c == '_' then scanDigits false cs
          else .digits [] (c :: cs)

/-- A message about a text, cut off behind 200 characters of the shown text. -/
def invalidNumeralMessage (s : String) : String :=
  "invalid literal for int() with base 10: " ++
    .ofList ((quoted s).toList.take 200)

/-- Read the numeral of an answer. -/
def readAnswerNumeral (s : String) : Except Failure Int :=
  let body := stripBoth isNumeralBlank s.toList
  let (negative, digits) := Coercion.splitSign body
  match scanDigits false digits with
  | .stray => .error (.unfit (invalidNumeralMessage s))
  | .digits values rest =>
      if Coercion.digitLimit < values.length then
        .error (.unfit (Coercion.tooManyDigitsMessage values.length))
      else if !rest.isEmpty then .error (.unfit (invalidNumeralMessage s))
      else .ok (Coercion.signed negative (values.foldl (fun n d => 10 * n + d) 0))

namespace Value

/-- A value as a whole number. -/
def toWhole : Value → Except Failure Int
  | bool b => .ok (if b then 1 else 0)
  | int n => .ok n
  | double .nan => .error (.unfit "cannot convert float NaN to integer")
  | double x =>
      match x.truncate? with
      | some n => .ok n
      | none => .error .overflow
  | text s => readAnswerNumeral s
  | _ => .error .mismatch

/-- The items of a value that has any: of a text its characters, of a mapping
its names. -/
def toRows : Value → Except Failure (List Value)
  | list items | tuple items => .ok items
  | text s => .ok (s.toList.map fun c => text (String.singleton c))
  | mapping entries => .ok (entries.map fun entry => text entry.1)
  | _ => .error .mismatch

/-- The number of rows that a count answered; no answer counts nothing. -/
def toCount : Value → Except Failure Int
  | null => .ok 0
  | value => value.toWhole

/-- The first column of the first row, nothing when there is no row. -/
def scalarOf (rows : List Value) : Value :=
  match rows with
  | [] => null
  | row :: _ => row.firstColumn

end Value

end PagedQuery
