import PagedQuery.Coercion
import PagedQuery.Value.Basic

/-!
# Values of JSON texts

A JSON text is read by its strict grammar.  Blanks may stand around every mark and every value,
nothing may stand behind the last one, and there is no comma but between two elements.  Whole
numbers, doubles, truth values and texts come out as such, arrays as lists and objects as
mappings, in which the last value of a repeated name counts.

Main results:

- Definition `readJson?`: the value that a JSON text stands for.
-/

namespace PagedQuery
namespace Json

open Coercion Numeric

/-- What is made of something that was read; what stands behind it stays. -/
def made {α β : Type} (f : α → β) (read : Option (α × List Char)) : Option (β × List Char) :=
  read.map fun p => (f p.1, p.2)

/-! ## Blanks -/

/-- The blanks of JSON texts. -/
def isGap (c : Char) : Bool := c == ' ' || c == '\t' || c == '\n' || c == '\r'

/-- Leave out the blanks in front. -/
def skipGap (cs : List Char) : List Char := cs.dropWhile isGap

/-! ## Strings -/

/-- What stands for a character inside a string: the character, or one of its units in
UTF-16. -/
inductive Letter where
  | itself (c : Char)
  | unit (n : Nat)

/-- The number that a hexadecimal digit stands for. -/
def hexValue? (c : Char) : Option Nat :=
  if isAsciiDigit c then some (digitValue c)
  else if 'a' ≤ c ∧ c ≤ 'f' then some (c.toNat - 87)
  else if 'A' ≤ c ∧ c ≤ 'F' then some (c.toNat - 55)
  else none

/-- The number that hexadecimal digits stand for. -/
def hexNumber? (cs : List Char) : Option Nat :=
  cs.foldlM (fun value c => (hexValue? c).map (16 * value + ·)) 0

/-- The character that a letter stands for behind a backslash. -/
def escaped? : Char → Option Char
  | '"' => some '"'
  | '\\' => some '\\'
  | '/' => some '/'
  | 'b' => some '\x08'
  | 'f' => some '\x0c'
  | 'n' => some '\n'
  | 'r' => some '\r'
  | 't' => some '\t'
  | _ => none

/-- The letters of a string up to its closing quote, and what stands behind that.  Control
characters are always written behind a backslash. -/
def readLetters : List Char → Option (List Letter × List Char)
  | [] => none
  | '"' :: rest => some ([], rest)
  | '\\' :: 'u' :: a :: b :: c :: d :: rest =>
      (hexNumber? [a, b, c, d]).bind fun n => made (.unit n :: ·) (readLetters rest)
  | '\\' :: c :: rest => (escaped? c).bind fun c => made (.itself c :: ·) (readLetters rest)
  | c :: rest =>
      if c == '\\' || c.toNat < 32 then none else made (.itself c :: ·) (readLetters rest)

/-- The unit is half of a character. -/
def isHalf (n : Nat) : Bool := 0xD800 ≤ n && n < 0xE000

/-- The character of two halves. -/
def pair? (high low : Nat) : Option Char :=
  if high < 0xDC00 ∧ 0xDC00 ≤ low ∧ low < 0xE000 then
    some (.ofNat (0x10000 + (high - 0xD800) * 0x400 + (low - 0xDC00)))
  else none

/-- The characters that letters stand for; a half needs the other half behind it. -/
def spell? : List Letter → Option (List Char)
  | [] => some []
  | .itself c :: letters => (spell? letters).map (c :: ·)
  | .unit n :: letters =>
      if isHalf n then
        match letters with
        | .unit low :: letters =>
            (pair? n low).bind fun c => (spell? letters).map (c :: ·)
        | _ => none
      else (spell? letters).map (.ofNat n :: ·)

/-- The text of a string, read behind its opening quote. -/
def readText (cs : List Char) : Option (String × List Char) :=
  (readLetters cs).bind fun p => (spell? p.1).map fun spelled => (.ofList spelled, p.2)

/-! ## Numbers and words -/

/-- The digits behind the point of a number, and its exponent. -/
def readFraction? : List Char → Option (List Char × Int)
  | '.' :: cs =>
      if (cs.takeWhile isAsciiDigit).isEmpty then none
      else (readExponent? (cs.dropWhile isAsciiDigit)).map (cs.takeWhile isAsciiDigit, ·)
  | cs => (readExponent? cs).map ([], ·)

/-- The value of a number behind its sign: a whole number when it has neither a fraction nor an
exponent, of at most so many digits as a numeral may have, and a double otherwise.  There are no
zeros in front of other digits. -/
def readUnsigned? (negative : Bool) (cs : List Char) : Option Value :=
  let whole := cs.takeWhile isAsciiDigit
  let behind := cs.dropWhile isAsciiDigit
  if whole.isEmpty || (whole.head? == some '0' && 1 < whole.length) then none
  else if behind.isEmpty then
    if digitLimit < whole.length then none else some (.int (signed negative (digitsValue whole)))
  else
    (readFraction? behind).map fun p =>
      .double (doubleOfDecimal negative (digitsValue (whole ++ p.1)) (p.2 - p.1.length))

/-- The value of a number; a plus sign is written in exponents only. -/
def readNumber? : List Char → Option Value
  | '-' :: cs => readUnsigned? true cs
  | cs => readUnsigned? false cs

/-- The value of a number or a word. -/
def readScalar? : List Char → Option Value
  | ['n', 'u', 'l', 'l'] => some .null
  | ['t', 'r', 'u', 'e'] => some (.bool true)
  | ['f', 'a', 'l', 's', 'e'] => some (.bool false)
  | cs => readNumber? cs

/-- The characters of numbers and words. -/
def isScalarChar (c : Char) : Bool := c.isAlphanum || c == '+' || c == '-' || c == '.'

/-! ## Arrays and objects -/

section

variable {α : Type} (readOne : List Char → Option (α × List Char)) (close : Char)

/-- Elements with commas in between, up to the closing mark; there are at most as many as the
bound says. -/
def readElements : Nat → List Char → Option (List α × List Char)
  | 0, _ => none
  | bound + 1, cs =>
      match readOne cs with
      | none => none
      | some (element, rest) =>
          match skipGap rest with
          | [] => none
          | mark :: rest =>
              if mark == close then some ([element], rest)
              else if mark == ',' then
                made (element :: ·) (readElements bound rest)
              else none

/-- Elements, read behind the opening mark; there may be none. -/
def readEnclosed (cs : List Char) : Option (List α × List Char) :=
  match skipGap cs with
  | [] => none
  | mark :: rest =>
      if mark == close then some ([], rest) else readElements readOne close cs.length cs

end

section

variable (readOne : List Char → Option (Value × List Char))

/-- The value of a name, behind a colon. -/
def readNamed (name : String) (cs : List Char) : Option ((String × Value) × List Char) :=
  match skipGap cs with
  | ':' :: rest => made (name, ·) (readOne rest)
  | _ => none

/-- A name and its value. -/
def readMember (cs : List Char) : Option ((String × Value) × List Char) :=
  match skipGap cs with
  | '"' :: rest => (readText rest).bind fun p => readNamed readOne p.1 p.2
  | _ => none

end

/-- The value at the front of a text, and what stands behind it.  Arrays and objects are nested
at most as deep as the depth says. -/
def readValue : Nat → List Char → Option (Value × List Char)
  | 0, _ => none
  | depth + 1, cs =>
      match skipGap cs with
      | '"' :: rest => made .text (readText rest)
      | '[' :: rest => made .list (readEnclosed (readValue depth) ']' rest)
      | '\x7b' :: rest =>
          made (.mapping ∘ putEntries []) (readEnclosed (readMember (readValue depth)) '\x7d' rest)
      | cs => (readScalar? (cs.takeWhile isScalarChar)).map (·, cs.dropWhile isScalarChar)

/-- The value that a JSON text stands for.  A text is nowhere nested deeper than it is long. -/
def readJson? (s : String) : Option Value :=
  (readValue (s.length + 1) s.toList).bind fun p =>
    if (skipGap p.2).isEmpty then some p.1 else none

/-- The two halves of a character are joined, and a half alone is refused. -/
example : ((readText "\\uD83D\\uDE00\"".toList).map Prod.fst, readText "\\uD83D\"".toList) =
    (some "😀", none) := by
  decide +kernel

end Json
end PagedQuery
