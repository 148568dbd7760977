import PagedQuery.Proofs.DecimalTexts
import PagedQuery.Proofs.NearestDoubles

/-!
# Decimals that are read as doubles

Reading settles exponents far beyond the range of doubles without computing their powers, and this
changes nothing: the double that is read is the one nearest to the exact decimal number, however
long its digits or its exponent.  What is refused as out of range is exactly what lies at or above
the middle between the largest double and the next power of two.

Main results:

- Theorem `doubleOfDecimal_eq`: the quotient that a decimal is rounded as, without shortcuts.
- Theorem `readDouble_exact`: which texts are read as a double, as which one, and how all others
  are refused.
-/

namespace PagedQuery

/-! ## Decimals as quotients -/

namespace Numeric

/-- A positive number is at least the power of ten of its first digit. -/
theorem pow_length_le {n : Nat} (hn : n ≠ 0) : 10 ^ ((decimalDigits n).length - 1) ≤ n := by
  by_cases hone : (decimalDigits n).length - 1 = 0
  · rw [hone, Nat.pow_zero]
    exact Nat.pos_of_ne_zero hn
  · rw [← Nat.not_lt, ← length_decimalDigits_le_iff (Nat.pos_of_ne_zero hone)]
    omega

/-- A number is less than the power of ten behind its first digit. -/
theorem lt_pow_length (n : Nat) : n < 10 ^ (decimalDigits n).length :=
  (length_decimalDigits_le_iff (List.length_pos_of_ne_nil (decimalDigits_ne_nil n))).1
    (Nat.le_refl _)

/-- A decimal is rounded as the quotient that it is, also where it is settled by its exponent. -/
theorem doubleOfDecimal_eq (negative : Bool) (digits : Nat) (exponent : Int) :
    doubleOfDecimal negative digits exponent =
      .ofRatio negative (digits * 10 ^ exponent.toNat) (10 ^ (-exponent).toNat) := by
  have hden : 0 < 10 ^ (-exponent).toNat := Nat.pow_pos (by decide)
  unfold doubleOfDecimal
  by_cases hzero : digits = 0
  · rw [if_pos (beq_iff_eq.2 hzero), hzero, Nat.zero_mul, Double.ofRatio_zero]
  · rw [if_neg (mt beq_iff_eq.1 hzero)]
    simp only
    split
    -- The number is at least `10 ^ 400`.
    · rename_i hlarge
      refine (ofRatio_of_le negative hden ?_).symm
      calc (2 ^ 1024 - 2 ^ 970) * 10 ^ (-exponent).toNat
          ≤ 10 ^ 400 * 10 ^ (-exponent).toNat := Nat.mul_le_mul_right _ (by decide +kernel)
        _ = 10 ^ (400 + (-exponent).toNat) := (Nat.pow_add 10 _ _).symm
        _ ≤ 10 ^ ((decimalDigits digits).length - 1 + exponent.toNat) :=
            Nat.pow_le_pow_right (by decide) (by omega)
        _ = 10 ^ ((decimalDigits digits).length - 1) * 10 ^ exponent.toNat := Nat.pow_add 10 _ _
        _ ≤ digits * 10 ^ exponent.toNat := Nat.mul_le_mul_right _ (pow_length_le hzero)
    split
    -- The number is at most `10 ^ -400`.
    · rename_i hsmall
      refine (ofRatio_of_tiny negative hden ?_).symm
      calc 2 ^ 1075 * (digits * 10 ^ exponent.toNat)
          ≤ 10 ^ 400 * (10 ^ (decimalDigits digits).length * 10 ^ exponent.toNat) :=
            Nat.mul_le_mul (by decide +kernel)
              (Nat.mul_le_mul_right _ (Nat.le_of_lt (lt_pow_length digits)))
        _ = 10 ^ (400 + ((decimalDigits digits).length + exponent.toNat)) := by
            rw [Nat.pow_add, Nat.pow_add]
        _ ≤ 10 ^ (-exponent).toNat := Nat.pow_le_pow_right (by decide) (by omega)
    split
    · rename_i hwhole
      have hnone : (-exponent).toNat = 0 := by omega
      rw [hnone, Nat.pow_zero]
    · rename_i hquotient
      have hnone : exponent.toNat = 0 := by omega
      rw [hnone, Nat.pow_zero, Nat.mul_one]

/-- A decimal is the quotient that it is rounded as. -/
theorem decimal_eq_quotient (digits : Nat) (exponent : Int) :
    (digits : ℚ) * 10 ^ exponent =
      (digits * 10 ^ exponent.toNat : Nat) / (10 ^ (-exponent).toNat : Nat) := by
  have hten : (10 : ℚ) ≠ 0 := by decide
  rw [Nat.cast_mul, Nat.cast_pow, Nat.cast_pow, Nat.cast_ofNat, mul_div_assoc]
  congr 1
  rcases Int.le_total 0 exponent with hwhole | hquotient
  · have hnone : (-exponent).toNat = 0 := by omega
    rw [hnone, pow_zero, div_one, ← zpow_natCast, Int.toNat_of_nonneg hwhole]
  · have hnone : exponent.toNat = 0 := by omega
    rw [hnone, pow_zero, one_div, ← zpow_natCast, Int.toNat_of_nonneg (by omega), zpow_neg,
      inv_inv]

/-- A power of two is the same rational number. -/
theorem cast_two_pow (k : Nat) : ((2 ^ k : Nat) : ℚ) = 2 ^ k := by
  rw [Nat.cast_pow, Nat.cast_ofNat]

/-- The middle between the largest double and the next power of two, as a rational number. -/
theorem cast_overflow : ((2 ^ 1024 - 2 ^ 970 : Nat) : ℚ) = 2 ^ 1024 - 2 ^ 970 := by
  have hle := Nat.pow_le_pow_right Nat.two_pos (show 970 ≤ 1024 by decide)
  rw [Nat.cast_sub hle, cast_two_pow 1024, cast_two_pow 970]

/-- The numbers of at most half a unit are far below the bound. -/
theorem lt_overflow_of_tiny {amount : ℚ} (hsign : 0 ≤ amount) (h : amount * 2 ^ 1075 ≤ 1) :
    amount < 2 ^ 1024 - 2 ^ 970 := by
  have hpower : (1 : ℚ) ≤ 2 ^ 1075 := one_le_pow₀ (by decide)
  have hbound : 1 < 2 ^ 1024 - 2 ^ 970 := by decide +kernel
  calc amount ≤ amount * 2 ^ 1075 := le_mul_of_one_le_right hsign hpower
    _ ≤ 1 := h
    _ < 2 ^ 1024 - 2 ^ 970 := by
      rw [← cast_overflow]
      exact_mod_cast hbound

end Numeric

/-! ## Reading doubles -/

namespace Coercion

open Numeric Text

namespace WrittenDecimal

variable {d : WrittenDecimal}

/-- A written decimal is rounded as a quotient that has its absolute value. -/
theorem exists_quotient (d : WrittenDecimal) : ∃ num den, 0 < den ∧
    d.toDouble = .ofRatio d.negative num den ∧ d.amount = num / den := by
  refine ⟨_, _, Nat.pow_pos (by decide), ?_, decimal_eq_quotient _ _⟩
  exact doubleOfDecimal_eq d.negative (digitsValue d.digits) (d.exponent - d.places)

/-- A written decimal below the bound has a nearest double. -/
theorem toDouble_of_lt (h : d.amount < 2 ^ 1024 - 2 ^ 970) :
    ∃ units, d.toDouble = .finite d.negative units ∧ IsNearest d.amount units := by
  obtain ⟨num, den, hden, hdouble, hamount⟩ := d.exists_quotient
  rw [hamount, ← cast_overflow, div_lt_iff₀ (Nat.cast_pos.2 hden), ← Nat.cast_mul,
    Nat.cast_lt] at h
  rw [hdouble, hamount]
  exact ofRatio_of_lt d.negative hden h

/-- A written decimal from the bound on is infinite. -/
theorem toDouble_of_le (h : 2 ^ 1024 - 2 ^ 970 ≤ d.amount) :
    d.toDouble = .infinity d.negative := by
  obtain ⟨num, den, hden, hdouble, hamount⟩ := d.exists_quotient
  rw [hamount, ← cast_overflow, le_div_iff₀ (Nat.cast_pos.2 hden), ← Nat.cast_mul,
    Nat.cast_le] at h
  rw [hdouble]
  exact ofRatio_of_le d.negative hden h

end WrittenDecimal

variable {raw : String} {negative : Bool} {amount : ℚ}

/-- A text that denotes a number below the bound is read as the nearest double. -/
theorem readDouble_of_lt (h : Denotes (stripChars raw.toList) negative amount)
    (hbound : amount < 2 ^ 1024 - 2 ^ 970) :
    ∃ units, readDouble raw = .ok (.finite negative units) ∧ IsNearest amount units := by
  obtain ⟨d, hread, rfl, rfl⟩ := denotes_iff.1 h
  obtain ⟨units, hdouble, hnearest⟩ := d.toDouble_of_lt hbound
  refine ⟨units, ?_, hnearest⟩
  simp only [readDouble, hread, hdouble, Double.isFinite, if_true]

/-- A text that denotes a number from the bound on is refused as out of range. -/
theorem readDouble_of_le (h : Denotes (stripChars raw.toList) negative amount)
    (hbound : 2 ^ 1024 - 2 ^ 970 ≤ amount) : readDouble raw = .error (.outOfRange raw) := by
  obtain ⟨d, hread, rfl, rfl⟩ := denotes_iff.1 h
  simp only [readDouble, hread, d.toDouble_of_le hbound, Double.isFinite, Bool.false_eq_true,
    if_false]

/-- A text that denotes no number is refused. -/
theorem readDouble_of_no_decimal
    (h : ¬∃ negative amount, Denotes (stripChars raw.toList) negative amount) :
    readDouble raw = .error (.notDecimal raw) := by
  have hread : readDecimal? (stripChars raw.toList) = none := by
    by_contra hsome
    obtain ⟨d, hd⟩ := Option.ne_none_iff_exists'.1 hsome
    exact h ⟨_, _, denotes_iff.2 ⟨d, hd, rfl, rfl⟩⟩
  simp only [readDouble, hread]

/-- A text that denotes at most half a unit is read as zero. -/
theorem readDouble_of_tiny (h : Denotes (stripChars raw.toList) negative amount)
    (htiny : amount * 2 ^ 1075 ≤ 1) : readDouble raw = .ok (.finite negative 0) := by
  obtain ⟨units, hread, hnearest⟩ := readDouble_of_lt h (lt_overflow_of_tiny h.nonneg htiny)
  have hunits : 2 * (amount * unitsPerOne) ≤ 1 := by
    have hcast : ((2 * unitsPerOne : Nat) : ℚ) = 2 ^ 1075 := by
      rw [two_mul_unitsPerOne, cast_two_pow 1075]
    rw [Nat.cast_mul, Nat.cast_ofNat] at hcast
    rw [← hcast] at htiny
    linarith
  rw [hread, hnearest.unique (isNearest_zero h.nonneg hunits)]

/-- Every text is read, out of range, or no decimal. -/
theorem readDouble_cases (raw : String) :
    (∃ negative amount units, Denotes (stripChars raw.toList) negative amount ∧
      amount < 2 ^ 1024 - 2 ^ 970 ∧ IsNearest amount units ∧
      readDouble raw = .ok (.finite negative units)) ∨
    (∃ negative amount, Denotes (stripChars raw.toList) negative amount ∧
      2 ^ 1024 - 2 ^ 970 ≤ amount ∧ readDouble raw = .error (.outOfRange raw)) ∨
    ((¬∃ negative amount, Denotes (stripChars raw.toList) negative amount) ∧
      readDouble raw = .error (.notDecimal raw)) := by
  by_cases h : ∃ negative amount, Denotes (stripChars raw.toList) negative amount
  · obtain ⟨negative, amount, h⟩ := h
    rcases lt_or_ge amount (2 ^ 1024 - 2 ^ 970) with hlt | hge
    · obtain ⟨units, hread, hnearest⟩ := readDouble_of_lt h hlt
      exact .inl ⟨negative, amount, units, h, hlt, hnearest, hread⟩
    · exact .inr (.inl ⟨negative, amount, h, hge, readDouble_of_le h hge⟩)
  · exact .inr (.inr ⟨h, readDouble_of_no_decimal h⟩)

/-- The texts that are read, and the double that is read from each. -/
theorem readDouble_eq_ok_iff {x : Double} : readDouble raw = .ok x ↔
    ∃ negative amount units, Denotes (stripChars raw.toList) negative amount ∧
      amount < 2 ^ 1024 - 2 ^ 970 ∧ IsNearest amount units ∧ x = .finite negative units := by
  constructor
  · intro h
    rcases readDouble_cases raw with ⟨negative, amount, units, hdenotes, hbound, hnearest, hread⟩ |
      ⟨_, _, _, _, hread⟩ | ⟨_, hread⟩
    · cases hread.symm.trans h
      exact ⟨negative, amount, units, hdenotes, hbound, hnearest, rfl⟩
    · cases hread.symm.trans h
    · cases hread.symm.trans h
  · rintro ⟨negative, amount, units, hdenotes, hbound, hnearest, rfl⟩
    obtain ⟨units', hread, hnearest'⟩ := readDouble_of_lt hdenotes hbound
    rw [hread, hnearest.unique hnearest']

/-- The texts that are refused, and how. -/
theorem readDouble_eq_error_iff {r : Rejection} : readDouble raw = .error r ↔
    (r = .outOfRange raw ∧ ∃ negative amount,
      Denotes (stripChars raw.toList) negative amount ∧ 2 ^ 1024 - 2 ^ 970 ≤ amount) ∨
    (r = .notDecimal raw ∧
      ¬∃ negative amount, Denotes (stripChars raw.toList) negative amount) := by
  constructor
  · intro h
    rcases readDouble_cases raw with ⟨_, _, _, _, _, _, hread⟩ |
      ⟨negative, amount, hdenotes, hbound, hread⟩ | ⟨hnone, hread⟩
    · cases hread.symm.trans h
    · cases hread.symm.trans h
      exact .inl ⟨rfl, negative, amount, hdenotes, hbound⟩
    · cases hread.symm.trans h
      exact .inr ⟨rfl, hnone⟩
  · rintro (⟨rfl, negative, amount, hdenotes, hbound⟩ | ⟨rfl, hnone⟩)
    · exact readDouble_of_le hdenotes hbound
    · exact readDouble_of_no_decimal hnone

/-- A double is read exactly from the texts that denote, when the blanks around them are removed,
a decimal number whose absolute value is less than `2 ^ 1024 - 2 ^ 970`.  What is read is finite:
the double nearest to the number, with its sign, and zero for every number of at most half a unit.
Decimal numbers that are not below the bound are refused as out of range, and all other texts as
no decimals. -/
theorem readDouble_exact (raw : String) :
    ((∃ x, readDouble raw = .ok x) ↔ ∃ negative amount,
      Denotes (stripChars raw.toList) negative amount ∧ amount < 2 ^ 1024 - 2 ^ 970) ∧
    (∀ x, readDouble raw = .ok x ↔ ∃ negative amount units,
      Denotes (stripChars raw.toList) negative amount ∧ amount < 2 ^ 1024 - 2 ^ 970 ∧
        IsNearest amount units ∧ x = .finite negative units) ∧
    (∀ negative amount, Denotes (stripChars raw.toList) negative amount →
      amount * 2 ^ 1075 ≤ 1 → readDouble raw = .ok (.finite negative 0)) ∧
    ∀ r, readDouble raw = .error r ↔
      (r = .outOfRange raw ∧ ∃ negative amount,
        Denotes (stripChars raw.toList) negative amount ∧ 2 ^ 1024 - 2 ^ 970 ≤ amount) ∨
      (r = .notDecimal raw ∧
        ¬∃ negative amount, Denotes (stripChars raw.toList) negative amount) := by
  refine ⟨⟨?_, ?_⟩, fun x => readDouble_eq_ok_iff, fun _ _ h htiny => readDouble_of_tiny h htiny,
    fun r => readDouble_eq_error_iff⟩
  · rintro ⟨x, hread⟩
    obtain ⟨negative, amount, _, hdenotes, hbound, -⟩ := readDouble_eq_ok_iff.1 hread
    exact ⟨negative, amount, hdenotes, hbound⟩
  · rintro ⟨negative, amount, hdenotes, hbound⟩
    obtain ⟨units, hread, -⟩ := readDouble_of_lt hdenotes hbound
    exact ⟨_, hread⟩

/-- The bound itself is refused, and the whole number below it is read.  Numbers that are too small
for a double are read as zero behind their sign, and so is zero with an exponent of any length;
grouped digits are no decimal. -/
theorem readDouble_exact_edges :
    (∃ x, readDouble (natText (2 ^ 1024 - 2 ^ 970 - 1)) = .ok x) ∧
      readDouble (natText (2 ^ 1024 - 2 ^ 970)) =
        .error (.outOfRange (natText (2 ^ 1024 - 2 ^ 970))) ∧
      readDouble " -.5E-400\n" = .ok (.finite true 0) ∧
      readDouble "0.e+99999999999999999999" = .ok (.finite false 0) ∧
      readDouble "1_0.5" = .error (.notDecimal "1_0.5") := by
  have hsmall : readDecimal? (stripChars " -.5E-400\n".toList) = some ⟨true, ['5'], 1, -400⟩ := by
    decide +kernel
  have hzero : readDecimal? (stripChars "0.e+99999999999999999999".toList) =
      some ⟨false, ['0'], 0, 99999999999999999999⟩ := by
    decide +kernel
  have hgrouped : readDecimal? (stripChars "1_0.5".toList) = none := by decide +kernel
  refine ⟨(readDouble_exact _).1.2 ⟨false, _, denotes_natText _, ?_⟩,
    ((readDouble_exact _).2.2.2 _).2 (.inl ⟨rfl, false, _, denotes_natText _, cast_overflow.ge⟩),
    (readDouble_exact _).2.2.1 true _ (denotes_iff.2 ⟨_, hsmall, rfl, rfl⟩) ?_,
    (readDouble_exact _).2.2.1 false _ (denotes_iff.2 ⟨_, hzero, rfl, rfl⟩) ?_,
    ((readDouble_exact _).2.2.2 _).2 (.inr ⟨rfl, ?_⟩)⟩
  · have hpos : 0 < 2 ^ 1024 - 2 ^ 970 := by decide +kernel
    rw [← cast_overflow, Nat.cast_lt]
    generalize 2 ^ 1024 - 2 ^ 970 = bound at hpos ⊢
    exact Nat.sub_lt hpos Nat.one_pos
  · rw [WrittenDecimal.amount, decimal_eq_quotient, div_mul_eq_mul_div, ← cast_two_pow 1075,
      ← Nat.cast_mul, div_le_iff₀ (Nat.cast_pos.2 (by decide +kernel)), one_mul, Nat.cast_le]
    decide +kernel
  · have hnone : digitsValue ['0'] = 0 := by decide
    rw [WrittenDecimal.amount, hnone, Nat.cast_zero, zero_mul, zero_mul]
    exact zero_le_one
  · rintro ⟨negative, amount, h⟩
    obtain ⟨d, hread, -⟩ := denotes_iff.1 h
    rw [hgrouped] at hread
    cases hread

end Coercion

end PagedQuery
