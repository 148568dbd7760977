import PagedQuery.Numeric.Decimal
import PagedQuery.Text.Blank
import PagedQuery.Text.CaseMap
import PagedQuery.Text.Quoted

/-!
# Strict reading of scalars

Text is turned into truth values, whole numbers and doubles by narrow grammars;
text that does not fit is rejected, and no default is ever assumed.  Blanks
around a value are ignored.

Main results:

- Theorem `readBool_ok`: a truth value comes from one of the known words only.
- Theorem `readDouble_isFinite`: a double that is read is finite.
-/

namespace PagedQuery
namespace Coercion

open Numeric Text

/-- Why a text is not a value of the wanted kind. -/
inductive Rejection where
  | notBoolean (raw : String)
  | notInteger (raw : String)
  /-- A numeral with this many digits is too long. -/
  | tooManyDigits (count : Nat)
  | notDecimal (raw : String)
  | outOfRange (raw : String)
  | notDate
  deriving DecidableEq, Repr

/-- The greatest number of digits of a numeral. -/
def digitLimit : Nat := 4300

/-- The wording for a numeral that is too long. -/
def tooManyDigitsMessage (count : Nat) : String :=
  "Exceeds the limit (" ++ natText digitLimit ++
    " digits) for integer string conversion: value has " ++ natText count ++
    " digits; use sys.set_int_max_str_digits() to increase the limit"

namespace Rejection

/-- The wording of a rejection. -/
def message : Rejection → String
  | notBoolean raw => "not a boolean: " ++ quoted raw
  | notInteger raw => "not an integer: " ++ quoted raw
  | tooManyDigits count => tooManyDigitsMessage count
  | notDecimal raw => "not a decimal number: " ++ quoted raw
  | outOfRange raw => "out of range: " ++ quoted raw
  | notDate => "does not match any of %Y-%m-%d, %Y-%m-%d %H:%M:%S"

end Rejection

/-! ## Truth values -/

/-- The words for true, in lower case. -/
def trueWords : List String := ["true", "1", "yes", "y", "on"]

/-- The words for false, in lower case. -/
def falseWords : List String := ["false", "0", "no", "n", "off"]

/-- Read a truth value; case does not matter. -/
def readBool (raw : String) : Except Rejection Bool :=
  let word := lowerText (strip raw)
  if trueWords.contains word then .ok true
  else if falseWords.contains word then .ok false
  else .error (.notBoolean raw)

/-! ## Signs and digits -/

/-- Take an optional sign off the front; true stands for the minus sign. -/
def splitSign : List Char → Bool × List Char
  | '+' :: rest => (false, rest)
  | '-' :: rest => (true, rest)
  | cs => (false, cs)

/-- Apply a sign. -/
def signed (negative : Bool) (n : Nat) : Int := if negative then -(n : Int) else n

/-! ## Whole numbers -/

/-- Read a whole number: an optional sign and ASCII digits. -/
def readInt (raw : String) : Except Rejection Int :=
  let (negative, digits) := splitSign (stripChars raw.toList)
  if digits.isEmpty || !digits.all isAsciiDigit then .error (.notInteger raw)
  else if digitLimit < digits.length then .error (.tooManyDigits digits.length)
  else .ok (signed negative (digitsValue digits))

/-! ## Doubles -/

/-- Read the exponent of a decimal: nothing, or a letter, an optional sign and
digits. -/
def readExponent? : List Char → Option Int
  | [] => some 0
  | c :: rest =>
      if c == 'e' || c == 'E' then
        let (negative, digits) := splitSign rest
        if digits.isEmpty || !digits.all isAsciiDigit then none
        else some (signed negative (digitsValue digits))
      else none

/-- A decimal as it is written: a sign, the digits without their point, how many
of them stand behind the point, and an exponent. -/
structure WrittenDecimal where
  negative : Bool
  digits : List Char
  places : Nat
  exponent : Int
  deriving DecidableEq, Repr

/-- Read a decimal: digits with an optional point among, before or behind them,
at least one digit in all, and an optional exponent. -/
def readDecimal? (cs : List Char) : Option WrittenDecimal :=
  let (negative, body) := splitSign cs
  let whole := body.takeWhile isAsciiDigit
  let afterWhole := body.dropWhile isAsciiDigit
  let (fraction, rest) :=
    match afterWhole with
    | '.' :: more => (more.takeWhile isAsciiDigit, more.dropWhile isAsciiDigit)
    | _ => ([], afterWhole)
  if whole.isEmpty && fraction.isEmpty then none
  else
    match readExponent? rest with
    | some exponent => some ⟨negative, whole ++ fraction, fraction.length, exponent⟩
    | none => none

/-- The double nearest to a written decimal. -/
def WrittenDecimal.toDouble (d : WrittenDecimal) : Double :=
  doubleOfDecimal d.negative (digitsValue d.digits) (d.exponent - d.places)

/-- Read a finite double. -/
def readDouble (raw : String) : Except Rejection Double :=
  match readDecimal? (stripChars raw.toList) with
  | none => .error (.notDecimal raw)
  | some d =>
      let x := d.toDouble
      if x.isFinite then .ok x else .error (.outOfRange raw)

/-! ## What is accepted -/

theorem readBool_ok {raw : String} {b : Bool} (h : readBool raw = .ok b) :
    lowerText (strip raw) ∈ (if b then trueWords else falseWords) := by
  unfold readBool at h
  simp only at h
  split at h
  · rename_i hm
    cases h
    simpa using hm
  · split at h
    · rename_i hm
      cases h
      simpa using hm
    · simp at h

theorem readDouble_isFinite {raw : String} {x : Double} (h : readDouble raw = .ok x) :
    x.isFinite = true := by
  unfold readDouble at h
  split at h
  · simp at h
  · simp only at h
    split at h
    · rename_i hf
      cases h
      exact hf
    · simp at h

end Coercion
end PagedQuery
