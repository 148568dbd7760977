import Mathlib.Algebra.Order.Field.Rat
import Mathlib.Data.List.Basic
import Mathlib.Tactic.FieldSimp
import PagedQuery.Proofs.PlainNumerals

/-!
# The texts of decimal numbers

A decimal number is written with ASCII digits and at most one point among, before or behind them,
behind a sign or none, and in front of a power of ten or none.  The grammar says which number
such a text denotes, and the reading takes the texts of the grammar and no others.

Main results:

- Theorem `readDecimal?_of_parts` and Theorem `exists_parts_of_readDecimal?`: reading takes a
  text apart as the grammar does.
- Theorem `denotes_iff`: what is read from a text is what it denotes, exactly.
- Theorem `Denotes.unique`: a text denotes at most one number.
-/

namespace PagedQuery
namespace Coercion

open Numeric Text

/-! ## The grammar -/

/-- The text consists of digits and at most one point: of `whole` in front of the point and
`fraction` behind it. -/
inductive IsMantissa : List Char → List Char → List Char → Prop
  | whole {digits : List Char} (h : IsDigits digits) : IsMantissa digits digits []
  | point {whole fraction : List Char} (hwhole : IsDigits whole)
      (hfraction : ∀ c ∈ fraction, isAsciiDigit c = true) :
      IsMantissa (whole ++ '.' :: fraction) whole fraction
  | fraction {digits : List Char} (h : IsDigits digits) : IsMantissa ('.' :: digits) [] digits

/-- The text is a decimal number, which has this sign and this absolute value. -/
inductive Denotes : List Char → Bool → ℚ → Prop
  | intro {sign mantissa whole fraction tail : List Char} {exponent : Int}
      (hsign : sign ∈ [[], ['+'], ['-']]) (hmantissa : IsMantissa mantissa whole fraction)
      (hexponent : IsExponent tail exponent) :
      Denotes (sign ++ (mantissa ++ tail)) (sign == ['-'])
        ((decimalValue whole + decimalValue fraction / 10 ^ fraction.length) * 10 ^ exponent)

variable {cs mantissa whole fraction tail : List Char} {exponent : Int}

/-- What stands behind the digits is no digit and no further point. -/
theorem IsExponent.head (h : IsExponent tail exponent) :
    ∀ c ∈ tail.head?, isAsciiDigit c = false ∧ c ≠ '.' := by
  cases h with
  | absent => exact fun c hc => nomatch hc
  | power hletter _ =>
      rintro c ⟨⟩
      simp only [List.mem_cons, List.not_mem_nil, or_false] at hletter
      rcases hletter with rfl | rfl
      · exact ⟨by decide, by decide⟩
      · exact ⟨by decide, by decide⟩

/-- A decimal number does not start with a second sign. -/
theorem IsMantissa.head (h : IsMantissa mantissa whole fraction) (tail : List Char) :
    ∀ c ∈ (mantissa ++ tail).head?, c ≠ '+' ∧ c ≠ '-' := by
  cases h with
  | whole h =>
      rw [List.head?_append_of_ne_nil _ h.ne_nil]
      exact h.head
  | point hwhole _ =>
      rw [List.append_assoc, List.head?_append_of_ne_nil _ hwhole.ne_nil]
      exact hwhole.head
  | fraction _ =>
      rintro c ⟨⟩
      exact ⟨by decide, by decide⟩

/-! ## Reading by the grammar -/

/-- A text of the grammar is read by its parts. -/
theorem readDecimal?_of_parts {sign : List Char} (hsign : sign ∈ [[], ['+'], ['-']])
    (hmantissa : IsMantissa mantissa whole fraction) (hexponent : IsExponent tail exponent) :
    readDecimal? (sign ++ (mantissa ++ tail)) =
      some ⟨sign == ['-'], whole ++ fraction, fraction.length, exponent⟩ := by
  have hread := readExponent?_eq_some_iff.2 hexponent
  have hbehind : ∀ c ∈ tail.head?, isAsciiDigit c = false := fun c hc => (hexponent.head c hc).1
  rw [readDecimal?, splitSign_append hsign (hmantissa.head tail)]
  cases hmantissa with
  | whole h =>
      obtain ⟨htake, hdrop⟩ := span_append h.digits hbehind
      have hsome : mantissa.isEmpty = false := List.isEmpty_eq_false_iff.2 h.ne_nil
      simp only [htake, hdrop]
      -- A point behind the digits would be taken for that of the number.
      split
      · exact absurd rfl (hexponent.head '.' rfl).2
      · simp only [hsome, Bool.false_and, Bool.false_eq_true, if_false, hread, List.length_nil]
  | point hwhole hfraction =>
      have hpoint : ∀ c ∈ ('.' :: (fraction ++ tail)).head?, isAsciiDigit c = false := by
        rintro c ⟨⟩
        decide
      obtain ⟨htake, hdrop⟩ := span_append hwhole.digits hpoint
      obtain ⟨htake', hdrop'⟩ := span_append hfraction hbehind
      have hsome : whole.isEmpty = false := List.isEmpty_eq_false_iff.2 hwhole.ne_nil
      simp only [List.append_assoc, htake, hdrop, List.cons_append, htake', hdrop', hsome,
        Bool.false_and, Bool.false_eq_true, if_false, hread]
  | fraction h =>
      obtain ⟨htake, hdrop⟩ := span_append h.digits hbehind
      have hsome : fraction.isEmpty = false := List.isEmpty_eq_false_iff.2 h.ne_nil
      have hpoint : isAsciiDigit '.' = false := by decide
      simp only [List.cons_append, List.takeWhile_cons, List.dropWhile_cons, hpoint,
        Bool.false_eq_true, if_false, htake, hdrop, List.isEmpty_nil, hsome, Bool.and_false, hread,
        List.nil_append]

/-- What is read when the digits and the power of ten have been told apart. -/
theorem parts_of_read {negative : Bool} {d : WrittenDecimal}
    (h : (if whole.isEmpty && fraction.isEmpty then none
      else match readExponent? tail with
        | some exponent => some ⟨negative, whole ++ fraction, fraction.length, exponent⟩
        | none => none) = some d) :
    (whole = [] → fraction ≠ []) ∧ IsExponent tail d.exponent ∧
      d = ⟨negative, whole ++ fraction, fraction.length, d.exponent⟩ := by
  split at h
  · cases h
  · rename_i hdigits
    split at h
    · rename_i hread
      cases h
      refine ⟨?_, readExponent?_eq_some_iff.1 hread, rfl⟩
      rintro rfl rfl
      exact hdigits rfl
    · cases h

/-- A text that is read has the parts of the grammar. -/
theorem exists_parts_of_readDecimal? {d : WrittenDecimal} (h : readDecimal? cs = some d) :
    ∃ sign ∈ [[], ['+'], ['-']], ∃ mantissa whole fraction tail,
      cs = sign ++ (mantissa ++ tail) ∧ IsMantissa mantissa whole fraction ∧
        IsExponent tail d.exponent ∧
        d = ⟨sign == ['-'], whole ++ fraction, fraction.length, d.exponent⟩ := by
  obtain ⟨sign, hsign, hsplit, hnegative⟩ := exists_sign cs
  refine ⟨sign, hsign, ?_⟩
  rw [readDecimal?] at h
  generalize splitSign cs = parts at h hsplit hnegative
  obtain ⟨negative, body⟩ := parts
  obtain rfl : negative = (sign == ['-']) := hnegative
  subst hsplit
  have hbody := List.takeWhile_append_dropWhile (p := isAsciiDigit) (l := body)
  have hwhole : ∀ c ∈ body.takeWhile isAsciiDigit, isAsciiDigit c = true :=
    fun c hc => List.mem_takeWhile_imp hc
  simp only at h
  generalize body.takeWhile isAsciiDigit = whole at h hbody hwhole
  generalize body.dropWhile isAsciiDigit = behind at h hbody
  subst hbody
  split at h
  · rename_i more
    obtain ⟨hsome, hexponent, hd⟩ := parts_of_read h
    have hmore := List.takeWhile_append_dropWhile (p := isAsciiDigit) (l := more)
    have hfraction : ∀ c ∈ more.takeWhile isAsciiDigit, isAsciiDigit c = true :=
      fun c hc => List.mem_takeWhile_imp hc
    refine ⟨whole ++ '.' :: more.takeWhile isAsciiDigit, whole, _, _, ?_, ?_, hexponent, hd⟩
    · rw [List.append_assoc, List.cons_append, hmore]
    -- The point needs digits on one of its sides only.
    · by_cases hnone : whole = []
      · subst hnone
        exact .fraction ⟨hsome rfl, hfraction⟩
      · exact .point ⟨hnone, hwhole⟩ hfraction
  · obtain ⟨hsome, hexponent, hd⟩ := parts_of_read h
    refine ⟨whole, whole, [], _, rfl, .whole ⟨fun hnone => hsome hnone rfl, hwhole⟩, hexponent, hd⟩

/-! ## What a text denotes -/

/-- The absolute value of a written decimal. -/
def WrittenDecimal.amount (d : WrittenDecimal) : ℚ :=
  digitsValue d.digits * 10 ^ (d.exponent - d.places)

/-- Digits without their point are worth as much as with it, when the power of ten is less by
the digits behind it. -/
theorem amount_eq (negative : Bool) (whole fraction : List Char) (exponent : Int) :
    WrittenDecimal.amount ⟨negative, whole ++ fraction, fraction.length, exponent⟩ =
      (decimalValue whole + decimalValue fraction / 10 ^ fraction.length) * 10 ^ exponent := by
  have hten : (10 : ℚ) ≠ 0 := by decide
  have hpower : (10 : ℚ) ^ fraction.length ≠ 0 := pow_ne_zero _ hten
  rw [WrittenDecimal.amount, digitsValue_eq, decimalValue_append, zpow_sub₀ hten, zpow_natCast,
    Nat.cast_add, Nat.cast_mul, Nat.cast_pow, Nat.cast_ofNat]
  field_simp

/-- A text denotes what is read from it, and nothing else. -/
theorem denotes_iff {negative : Bool} {amount : ℚ} : Denotes cs negative amount ↔
    ∃ d, readDecimal? cs = some d ∧ d.negative = negative ∧ d.amount = amount := by
  constructor
  · rintro ⟨hsign, hmantissa, hexponent⟩
    exact ⟨_, readDecimal?_of_parts hsign hmantissa hexponent, rfl, amount_eq _ _ _ _⟩
  · rintro ⟨d, hread, rfl, rfl⟩
    obtain ⟨sign, hsign, mantissa, whole, fraction, tail, rfl, hmantissa, hexponent, hd⟩ :=
      exists_parts_of_readDecimal? hread
    rw [hd, amount_eq]
    exact .intro hsign hmantissa hexponent

/-- A text denotes at most one number. -/
theorem Denotes.unique {negative negative' : Bool} {amount amount' : ℚ}
    (h : Denotes cs negative amount) (h' : Denotes cs negative' amount') :
    negative = negative' ∧ amount = amount' := by
  obtain ⟨d, hread, rfl, rfl⟩ := denotes_iff.1 h
  obtain ⟨d', hread', rfl, rfl⟩ := denotes_iff.1 h'
  cases hread.symm.trans hread'
  exact ⟨rfl, rfl⟩

/-- What a text denotes is not negative behind its sign. -/
theorem Denotes.nonneg {negative : Bool} {amount : ℚ} (h : Denotes cs negative amount) :
    0 ≤ amount := by
  obtain ⟨d, -, -, rfl⟩ := denotes_iff.1 h
  exact mul_nonneg (Nat.cast_nonneg _) (zpow_nonneg (by decide) _)

/-- A whole number is denoted by its numeral. -/
theorem denotes_natText (n : Nat) : Denotes (stripChars (natText n).toList) false n := by
  have hchars : stripChars (natText n).toList = decimalDigits n := by
    rw [natText, String.toList_ofList]
    exact stripChars_intChars (.ofNat n)
  have hdigits : IsDigits (decimalDigits n) := ⟨decimalDigits_ne_nil n, decimalDigits_isDigit n⟩
  have hplain : [] ∈ [[], ['+'], ['-']] := List.mem_cons_self
  have h := Denotes.intro hplain (.whole hdigits) .absent
  rw [← digitsValue_eq, digitsValue_decimalDigits, List.append_nil, zpow_zero, mul_one] at h
  rw [hchars]
  simpa [decimalValue] using h

end Coercion
end PagedQuery
