/-!
# Decimal numerals

Whole numbers are written in decimal without leading zeros, a negative one
behind a minus sign.

Main results:

- Theorem `digitsValue_decimalDigits`: reading the digits of a number gives the
  number back.
- Theorem `decimalDigits_isDigit`: a numeral consists of ASCII digits.
- Theorem `decimalDigits_ne_nil`: a numeral is never empty.
-/

namespace PagedQuery
namespace Numeric

/-- The ASCII digit of a number below ten. -/
def digitChar (d : Nat) : Char := Char.ofNat (48 + d)

/-- The number that an ASCII digit stands for. -/
def digitValue (c : Char) : Nat := c.toNat - 48

/-- The ASCII digits. -/
def isAsciiDigit (c : Char) : Bool := '0' ≤ c && c ≤ '9'

/-- The digits of a number in front of given characters. -/
def digitsOnto (n : Nat) (rest : List Char) : List Char :=
  if n < 10 then digitChar n :: rest
  else digitsOnto (n / 10) (digitChar (n % 10) :: rest)

/-- The digits of a number, most significant first. -/
def decimalDigits (n : Nat) : List Char := digitsOnto n []

/-- The number whose digits continue those of `n` by the given ones. -/
def digitsValueFrom (n : Nat) (cs : List Char) : Nat :=
  cs.foldl (fun value c => 10 * value + digitValue c) n

/-- The number that a list of digits denotes. -/
def digitsValue (cs : List Char) : Nat := digitsValueFrom 0 cs

/-- The numeral of a whole number, as characters. -/
def intChars : Int → List Char
  | .ofNat n => decimalDigits n
  | .negSucc n => '-' :: decimalDigits (n + 1)

/-- The numeral of a natural number. -/
def natText (n : Nat) : String := .ofList (decimalDigits n)

/-- The numeral of a whole number. -/
def intText (n : Int) : String := .ofList (intChars n)

/-- A natural number with at least `width` digits, zeros in front. -/
def paddedChars (width n : Nat) : List Char :=
  let digits := decimalDigits n
  List.replicate (width - digits.length) '0' ++ digits

/-! ## Digits denote their number -/

theorem toNat_digitChar {d : Nat} (h : d < 10) : (digitChar d).toNat = 48 + d := by
  have hd : d = 0 ∨ d = 1 ∨ d = 2 ∨ d = 3 ∨ d = 4 ∨ d = 5 ∨ d = 6 ∨ d = 7 ∨ d = 8 ∨
      d = 9 := by omega
  rcases hd with rfl | rfl | rfl | rfl | rfl | rfl | rfl | rfl | rfl | rfl <;> rfl

theorem digitValue_digitChar {d : Nat} (h : d < 10) : digitValue (digitChar d) = d := by
  rw [digitValue, toNat_digitChar h]
  omega

theorem isAsciiDigit_digitChar {d : Nat} (h : d < 10) :
    isAsciiDigit (digitChar d) = true := by
  have hd : d = 0 ∨ d = 1 ∨ d = 2 ∨ d = 3 ∨ d = 4 ∨ d = 5 ∨ d = 6 ∨ d = 7 ∨ d = 8 ∨
      d = 9 := by omega
  rcases hd with rfl | rfl | rfl | rfl | rfl | rfl | rfl | rfl | rfl | rfl <;> rfl

theorem digitsOnto_of_lt {n : Nat} (h : n < 10) (rest : List Char) :
    digitsOnto n rest = digitChar n :: rest := by
  rw [digitsOnto, if_pos h]

theorem digitsOnto_of_le {n : Nat} (h : 10 ≤ n) (rest : List Char) :
    digitsOnto n rest = digitsOnto (n / 10) (digitChar (n % 10) :: rest) := by
  rw [digitsOnto, if_neg (by omega)]

theorem digitsOnto_eq (n : Nat) (rest : List Char) :
    digitsOnto n rest = digitsOnto n [] ++ rest := by
  induction n using Nat.strongRecOn generalizing rest with
  | ind n ih =>
      by_cases h : n < 10
      · rw [digitsOnto_of_lt h, digitsOnto_of_lt h]
        rfl
      · have h : 10 ≤ n := Nat.le_of_not_lt h
        rw [digitsOnto_of_le h, digitsOnto_of_le h, ih (n / 10) (by omega),
          ih (n / 10) (by omega) [_], List.append_assoc]
        rfl

theorem decimalDigits_of_lt {n : Nat} (h : n < 10) : decimalDigits n = [digitChar n] :=
  digitsOnto_of_lt h []

theorem decimalDigits_of_le {n : Nat} (h : 10 ≤ n) :
    decimalDigits n = decimalDigits (n / 10) ++ [digitChar (n % 10)] := by
  rw [decimalDigits, digitsOnto_of_le h, digitsOnto_eq]
  rfl

theorem digitsValueFrom_append (n : Nat) (cs ds : List Char) :
    digitsValueFrom n (cs ++ ds) = digitsValueFrom (digitsValueFrom n cs) ds := by
  rw [digitsValueFrom, List.foldl_append]
  rfl

theorem digitsValue_decimalDigits (n : Nat) : digitsValue (decimalDigits n) = n := by
  induction n using Nat.strongRecOn with
  | ind n ih =>
      by_cases h : n < 10
      · rw [decimalDigits_of_lt h]
        simp only [digitsValue, digitsValueFrom, List.foldl, digitValue_digitChar h]
        omega
      · rw [decimalDigits_of_le (by omega), digitsValue, digitsValueFrom_append]
        have hn : digitsValueFrom 0 (decimalDigits (n / 10)) = n / 10 :=
          ih (n / 10) (by omega)
        rw [hn]
        simp only [digitsValueFrom, List.foldl,
          digitValue_digitChar (Nat.mod_lt n (by omega))]
        omega

theorem decimalDigits_isDigit (n : Nat) : ∀ c ∈ decimalDigits n, isAsciiDigit c = true := by
  induction n using Nat.strongRecOn with
  | ind n ih =>
      by_cases h : n < 10
      · rw [decimalDigits_of_lt h]
        intro c hc
        rw [List.mem_singleton.1 hc]
        exact isAsciiDigit_digitChar h
      · rw [decimalDigits_of_le (by omega)]
        intro c hc
        rcases List.mem_append.1 hc with hc | hc
        · exact ih (n / 10) (by omega) c hc
        · rw [List.mem_singleton.1 hc]
          exact isAsciiDigit_digitChar (Nat.mod_lt n (by omega))

theorem decimalDigits_ne_nil (n : Nat) : decimalDigits n ≠ [] := by
  by_cases h : n < 10
  · simp [decimalDigits_of_lt h]
  · simp [decimalDigits_of_le (Nat.le_of_not_lt h)]

end Numeric
end PagedQuery
