import Mathlib.Data.Nat.Digits.Defs
import PagedQuery.Proofs.WrittenScalars

/-!
# The numerals of whole numbers

A whole number is read from its plain numerals only: ASCII digits, with leading zeros or without
them, behind a sign or none.  The number of digits is limited, and a numeral that is too long is
refused by that number, whatever it denotes.  The power of ten of a decimal is such a numeral
behind a letter, and has any number of digits.

Main results:

- Theorem `digitsValue_eq`: digits are read by their places in the decimal system.
- Theorem `length_decimalDigits_le_iff`: how many digits a number has.
- Theorem `isPlainNumeral_iff`: a text is a numeral in at most one way.
- Theorem `readExponent?_eq_some_iff`: which texts are read as a power of ten.
- Theorem `readInt_exact`: which texts are read as a whole number, how all others are refused, and
  that numerals of whole numbers are read back.
-/

namespace PagedQuery

/-! ## Digits and their numbers -/

namespace Numeric

/-- The number that digits denote in the decimal system: the last one counts ones, the one before
it tens, and so on. -/
def decimalValue (digits : List Char) : Nat := Nat.ofDigits 10 (digits.reverse.map digitValue)

/-- Digits are read by their places in the decimal system. -/
theorem digitsValue_eq (digits : List Char) : digitsValue digits = decimalValue digits := by
  rw [decimalValue, Nat.ofDigits_eq_foldr, List.foldr_map, List.foldr_reverse]
  unfold digitsValue digitsValueFrom
  congr 1
  funext value c
  rw [Nat.add_comm]
  rfl

/-- Digits in front of others are worth a power of ten. -/
theorem decimalValue_append (front back : List Char) :
    decimalValue (front ++ back) =
      decimalValue front * 10 ^ back.length + decimalValue back := by
  rw [decimalValue, List.reverse_append, List.map_append, Nat.ofDigits_append, List.length_map,
    List.length_reverse, Nat.add_comm, Nat.mul_comm]
  rfl

/-- A number has at most so many digits exactly when it is less than that power of ten. -/
theorem length_decimalDigits_le_iff {n k : Nat} (hk : 0 < k) :
    (decimalDigits n).length ≤ k ↔ n < 10 ^ k := by
  induction n using Nat.strongRecOn generalizing k with
  | ind n ih =>
      obtain ⟨k, rfl⟩ := Nat.exists_eq_add_one.2 hk
      by_cases hdigit : n < 10
      · have hpower : 10 ≤ 10 ^ (k + 1) := Nat.le_self_pow (Nat.succ_ne_zero k) 10
        rw [decimalDigits_of_lt hdigit, List.length_singleton]
        exact iff_of_true (Nat.le_add_left 1 k) (Nat.lt_of_lt_of_le hdigit hpower)
      · rw [decimalDigits_of_le (Nat.le_of_not_lt hdigit), List.length_append,
          List.length_singleton, Nat.add_le_add_iff_right]
        cases k with
        | zero =>
            refine iff_of_false ?_ (by simpa using Nat.le_of_not_lt hdigit)
            rw [Nat.le_zero, List.length_eq_zero_iff]
            exact decimalDigits_ne_nil (n / 10)
        | succ k =>
            rw [ih (n / 10) (by omega) (Nat.succ_pos k), Nat.div_lt_iff_lt_mul (by decide),
              ← Nat.pow_succ]

end Numeric

/-! ## Plain numerals -/

namespace Coercion

open Numeric Text

/-- There are characters, and all of them are ASCII digits. -/
structure IsDigits (cs : List Char) : Prop where
  ne_nil : cs ≠ []
  digits : ∀ c ∈ cs, isAsciiDigit c = true

/-- The text is a numeral with so many digits and denotes the number: ASCII digits behind an
optional sign. -/
inductive IsPlainNumeral : List Char → Nat → Int → Prop
  | intro {sign digits : List Char} (hsign : sign ∈ [[], ['+'], ['-']])
      (hdigits : IsDigits digits) :
      IsPlainNumeral (sign ++ digits) digits.length
        (signed (sign == ['-']) (decimalValue digits))

variable {cs digits : List Char}

/-- What is checked of digits. -/
theorem isDigits_iff : IsDigits digits ↔ (digits.isEmpty || !digits.all isAsciiDigit) = false := by
  rw [Bool.or_eq_false_iff, List.isEmpty_eq_false_iff, Bool.not_eq_false', List.all_eq_true]
  exact ⟨fun h => ⟨h.ne_nil, h.digits⟩, fun h => ⟨h.1, h.2⟩⟩

/-- Digits do not start with a sign. -/
theorem IsDigits.head (h : IsDigits digits) : ∀ c ∈ digits.head?, c ≠ '+' ∧ c ≠ '-' :=
  fun c hc => (digit_facts (h.digits c (List.mem_of_mem_head? hc))).2

/-- A text is a numeral in at most one way: by what is left of it when a sign has been taken off
its front. -/
theorem isPlainNumeral_iff {count : Nat} {n : Int} : IsPlainNumeral cs count n ↔
    IsDigits (splitSign cs).2 ∧ count = (splitSign cs).2.length ∧
      n = signed (splitSign cs).1 (digitsValue (splitSign cs).2) := by
  constructor
  · intro h
    cases h with
    | intro hsign hdigits =>
        rw [splitSign_append hsign hdigits.head, digitsValue_eq]
        exact ⟨hdigits, rfl, rfl⟩
  · rintro ⟨hdigits, rfl, rfl⟩
    obtain ⟨sign, hsign, hsplit, hnegative⟩ := exists_sign cs
    generalize splitSign cs = parts at hdigits hsplit hnegative ⊢
    rw [hsplit, hnegative, digitsValue_eq]
    exact .intro hsign hdigits

/-! ## Powers of ten -/

/-- The text stands for a power of ten: it is a letter and a numeral, or there is none. -/
inductive IsExponent : List Char → Int → Prop
  | absent : IsExponent [] 0
  | power {letter : Char} {numeral : List Char} {count : Nat} {n : Int}
      (hletter : letter ∈ ['e', 'E']) (hnumeral : IsPlainNumeral numeral count n) :
      IsExponent (letter :: numeral) n

/-- The texts that are read as a power of ten. -/
theorem readExponent?_eq_some_iff {tail : List Char} {exponent : Int} :
    readExponent? tail = some exponent ↔ IsExponent tail exponent := by
  cases tail with
  | nil =>
      constructor
      · rintro ⟨⟩
        exact .absent
      · rintro ⟨⟩
        rfl
  | cons letter numeral =>
      have hletter : letter ∈ ['e', 'E'] ↔ (letter == 'e' || letter == 'E') = true := by simp
      constructor
      · intro h
        rw [readExponent?] at h
        split at h
        · rename_i hread
          simp only at h
          split at h
          · cases h
          · rename_i hdigits
            cases h
            exact .power (hletter.2 hread) (isPlainNumeral_iff.2
              ⟨isDigits_iff.2 (Bool.not_eq_true _ ▸ hdigits), rfl, rfl⟩)
        · cases h
      · rintro ⟨⟩
        rename_i count hread hnumeral
        obtain ⟨hdigits, -, rfl⟩ := isPlainNumeral_iff.1 hnumeral
        rw [isDigits_iff] at hdigits
        simp only [readExponent?, hletter.1 hread, hdigits, if_true, Bool.false_eq_true, if_false]

/-! ## Reading whole numbers -/

variable {raw : String}

/-- A text is a numeral exactly when digits are left behind its sign. -/
theorem isDigits_of_numeral_iff :
    (∃ count n, IsPlainNumeral cs count n) ↔ IsDigits (splitSign cs).2 := by
  simp only [isPlainNumeral_iff]
  exact ⟨fun ⟨_, _, h, _⟩ => h, fun h => ⟨_, _, h, rfl, rfl⟩⟩

/-- A numeral is read, unless it has too many digits. -/
theorem readInt_of_numeral {count : Nat} {n : Int}
    (h : IsPlainNumeral (stripChars raw.toList) count n) :
    readInt raw = if digitLimit < count then .error (.tooManyDigits count) else .ok n := by
  obtain ⟨hdigits, rfl, rfl⟩ := isPlainNumeral_iff.1 h
  rw [isDigits_iff] at hdigits
  simp only [readInt, hdigits, Bool.false_eq_true, if_false]

/-- A text that is no numeral is refused. -/
theorem readInt_of_no_numeral
    (h : ¬∃ count n, IsPlainNumeral (stripChars raw.toList) count n) :
    readInt raw = .error (.notInteger raw) := by
  rw [isDigits_of_numeral_iff, isDigits_iff, Bool.not_eq_false] at h
  simp only [readInt, h, if_true]

/-- The texts that are read as a whole number. -/
theorem readInt_eq_ok_iff {n : Int} : readInt raw = .ok n ↔
    ∃ count ≤ digitLimit, IsPlainNumeral (stripChars raw.toList) count n := by
  constructor
  · intro h
    by_cases hnumeral : ∃ count n, IsPlainNumeral (stripChars raw.toList) count n
    · obtain ⟨count, m, hnumeral⟩ := hnumeral
      rw [readInt_of_numeral hnumeral] at h
      split at h
      · cases h
      · rename_i hshort
        cases h
        exact ⟨count, Nat.not_lt.1 hshort, hnumeral⟩
    · rw [readInt_of_no_numeral hnumeral] at h
      cases h
  · rintro ⟨count, hcount, hnumeral⟩
    rw [readInt_of_numeral hnumeral, if_neg (Nat.not_lt.2 hcount)]

/-- The texts that are refused, and how. -/
theorem readInt_eq_error_iff {r : Rejection} : readInt raw = .error r ↔
    (r = .notInteger raw ∧ ¬∃ count n, IsPlainNumeral (stripChars raw.toList) count n) ∨
      ∃ count n, r = .tooManyDigits count ∧ digitLimit < count ∧
        IsPlainNumeral (stripChars raw.toList) count n := by
  constructor
  · intro h
    by_cases hnumeral : ∃ count n, IsPlainNumeral (stripChars raw.toList) count n
    · obtain ⟨count, m, hnumeral⟩ := hnumeral
      rw [readInt_of_numeral hnumeral] at h
      split at h
      · rename_i hlong
        cases h
        exact .inr ⟨count, m, rfl, hlong, hnumeral⟩
      · cases h
    · rw [readInt_of_no_numeral hnumeral] at h
      cases h
      exact .inl ⟨rfl, hnumeral⟩
  · rintro (⟨rfl, hnone⟩ | ⟨count, n, rfl, hlong, hnumeral⟩)
    · exact readInt_of_no_numeral hnone
    · rw [readInt_of_numeral hnumeral, if_pos hlong]

/-- A whole number is read exactly from the texts that are its plain numerals with at most 4300
digits when the blanks around them are removed.  Numerals with more digits are refused by their
length, and all other texts as no numerals at all.  And every whole number with at most 4300
digits is read from its numeral. -/
theorem readInt_exact (raw : String) :
    (∀ n, readInt raw = .ok n ↔
      ∃ count ≤ 4300, IsPlainNumeral (stripChars raw.toList) count n) ∧
    (∀ r, readInt raw = .error r ↔
      (r = .notInteger raw ∧ ¬∃ count n, IsPlainNumeral (stripChars raw.toList) count n) ∨
      ∃ count n, r = .tooManyDigits count ∧ 4300 < count ∧
        IsPlainNumeral (stripChars raw.toList) count n) ∧
    ∀ n : Int, n.natAbs < 10 ^ 4300 → readInt (intText n) = .ok n := by
  refine ⟨fun n => readInt_eq_ok_iff, fun r => readInt_eq_error_iff, fun n hn => ?_⟩
  apply readInt_intText
  rw [digitLimit, length_decimalDigits_le_iff (by decide)]
  exact hn

/-- A number is read behind a wide space, with zeros in front and the end of a line behind it; it
is not read from grouped digits or from the digits of another script.  It is read from its own
numeral. -/
theorem readInt_exact_minusSeven :
    readInt "\u2003-007\n" = .ok (-7) ∧ readInt "-0_07" = .error (.notInteger "-0_07") ∧
      readInt "-\u0667" = .error (.notInteger "-\u0667") ∧ readInt (intText (-7)) = .ok (-7) := by
  have hplain : stripChars "\u2003-007\n".toList = ['-', '0', '0', '7'] := by decide +kernel
  have hgrouped : stripChars "-0_07".toList = ['-', '0', '_', '0', '7'] := by decide +kernel
  have hscript : stripChars "-\u0667".toList = ['-', '\u0667'] := by decide +kernel
  refine ⟨((readInt_exact _).1 _).2 ⟨3, by decide, ?_⟩,
    ((readInt_exact _).2.1 _).2 (.inl ⟨rfl, ?_⟩), ((readInt_exact _).2.1 _).2 (.inl ⟨rfl, ?_⟩),
    (readInt_exact "").2.2 _ ?_⟩
  · rw [hplain]
    exact isPlainNumeral_iff.2 ⟨isDigits_iff.2 (by decide), rfl, by decide⟩
  · rw [hgrouped, isDigits_of_numeral_iff, isDigits_iff]
    decide
  · rw [hscript, isDigits_of_numeral_iff, isDigits_iff]
    decide
  · calc (-7 : Int).natAbs < 10 ^ 1 := by decide
      _ ≤ 10 ^ 4300 := Nat.pow_le_pow_right (by decide) (by decide)

end Coercion

end PagedQuery
