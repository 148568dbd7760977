import PagedQuery.Proofs.RoundedQuotients

/-!
# Quotients among the doubles

A quotient that is rounded to 53 binary digits goes to the upper one of two neighbouring
doubles when it lies above the middle between them, and in the middle when the lower one ends
in an odd digit.  So where a rounded quotient lies is told by comparing whole numbers, at any
size of the quotient.

Main results:

- Theorem `succ_le_roundedUnits_iff` and Theorem `lt_roundedUnits_iff`: a rounded quotient is
  above a double exactly when it has reached the next one, and that is when the quotient is
  past the middle between them.
- Theorem `roundedUnits_le_digits`: rounding does not carry a quotient above a double.
- Theorem `unitsLimit_le_roundedUnits_iff`: the quotients that have no finite double.
-/

namespace PagedQuery
namespace Numeric

/-! ## Rounding to the nearest whole number -/

/-- A quotient is rounded to more than a whole number exactly when it lies above the middle to
the next one, or in the middle when that one is even. -/
theorem lt_roundHalfEven_iff {den : Nat} (hden : 0 < den) (num m : Nat) :
    m < roundHalfEven num den ↔
      (2 * m + 1) * den < 2 * num ∨ ((2 * m + 1) * den = 2 * num ∧ m % 2 = 1) := by
  have hbounds := roundHalfEven_bounds num den
  have hsplit := Nat.div_add_mod num den
  have hrest := Nat.mod_lt num hden
  have hmiddle : (2 * m + 1) * den = 2 * (den * m) + den := by ring
  rw [hmiddle]
  rcases Nat.lt_trichotomy (num / den) m with hlt | heq | hgt
  · have hmul : den * (num / den + 1) ≤ den * m := Nat.mul_le_mul_left den hlt
    rw [Nat.mul_succ] at hmul
    omega
  · rw [heq] at hsplit
    simp only [roundHalfEven, heq]
    split
    · omega
    · split <;> omega
  · have hmul : den * (m + 1) ≤ den * (num / den) := Nat.mul_le_mul_left den hgt
    rw [Nat.mul_succ] at hmul
    omega

/-! ## The step of a quotient -/

/-- Powers of two are multiplied by adding their exponents. -/
theorem two_pow_mul_eq {a b c : Nat} (h : a + b = c) : 2 ^ a * 2 ^ b = 2 ^ c := by
  rw [← Nat.pow_add, h]

/-- The units of a power of two. -/
theorem two_pow_mul_unitsPerOne {a b : Nat} (h : a + 1074 = b) :
    2 ^ a * unitsPerOne = 2 ^ b := by
  rw [unitsPerOne, two_pow_mul_eq h]

/-- The units of the number two. -/
theorem two_mul_unitsPerOne : 2 * unitsPerOne = 2 ^ 1075 := by
  rw [← two_pow_mul_unitsPerOne (show 1 + 1074 = 1075 from rfl), Nat.pow_one]

/-- A number has as many binary digits as a power of two below it. -/
theorem le_log2_of_two_pow_le {n e : Nat} (h : 2 ^ e ≤ n) : e ≤ n.log2 :=
  (Nat.le_log2 (Nat.ne_of_gt (Nat.lt_of_lt_of_le (Nat.two_pow_pos e) h))).2 h

/-- The doubles around a quotient lie `2 ^ stepExponent` units apart. -/
def stepExponent (num den : Nat) : Nat := (num * unitsPerOne / den).log2 - 52

/-- A quotient is rounded to a multiple of its step. -/
theorem roundedUnits_eq (num den : Nat) :
    roundedUnits num den =
      roundHalfEven (num * unitsPerOne) (den * 2 ^ stepExponent num den) *
        2 ^ stepExponent num den := by
  unfold stepExponent
  by_cases hsmall : num * unitsPerOne / den < 2 ^ 53
  · have hzero : (num * unitsPerOne / den).log2 - 52 = 0 := by
      by_cases hnone : num * unitsPerOne / den = 0
      · rw [hnone]
        rfl
      · have hlog := (Nat.log2_lt hnone).2 hsmall
        omega
    simp only [roundedUnits, if_pos hsmall, hzero, Nat.pow_zero, Nat.mul_one]
  · simp only [roundedUnits, if_neg hsmall]

/-- A quotient has less than 54 binary digits in steps. -/
theorem lt_steps {den : Nat} (hden : 0 < den) (num : Nat) :
    num * unitsPerOne < 2 ^ 53 * (den * 2 ^ stepExponent num den) := by
  have hlt : num * unitsPerOne / den < 2 ^ (53 + stepExponent num den) := by
    refine Nat.lt_of_lt_of_le Nat.lt_log2_self ?_
    apply Nat.pow_le_pow_right (by decide)
    unfold stepExponent
    omega
  rw [Nat.div_lt_iff_lt_mul hden, Nat.pow_add] at hlt
  calc num * unitsPerOne < 2 ^ 53 * 2 ^ stepExponent num den * den := hlt
    _ = 2 ^ 53 * (den * 2 ^ stepExponent num den) := by ring

/-- A quotient has 53 binary digits in steps, unless the step is one unit. -/
theorem steps_le (num den : Nat) (hstep : stepExponent num den ≠ 0) :
    2 ^ 52 * (den * 2 ^ stepExponent num den) ≤ num * unitsPerOne := by
  have hwhole : num * unitsPerOne / den ≠ 0 := by
    intro hzero
    rw [stepExponent, hzero] at hstep
    exact hstep rfl
  have hexponent : 52 + stepExponent num den = (num * unitsPerOne / den).log2 := by
    unfold stepExponent at hstep ⊢
    omega
  calc 2 ^ 52 * (den * 2 ^ stepExponent num den)
      = 2 ^ (52 + stepExponent num den) * den := by ring
    _ = 2 ^ (num * unitsPerOne / den).log2 * den := by rw [hexponent]
    _ ≤ num * unitsPerOne / den * den := Nat.mul_le_mul_right _ (Nat.log2_self_le hwhole)
    _ ≤ num * unitsPerOne := Nat.div_mul_le_self _ _

/-- Rounding to steps gives at most 53 binary digits, or the least number with 54. -/
theorem roundHalfEven_steps_le {den : Nat} (hden : 0 < den) (num : Nat) :
    roundHalfEven (num * unitsPerOne) (den * 2 ^ stepExponent num den) ≤ 2 ^ 53 :=
  roundHalfEven_le (Nat.mul_pos hden (Nat.two_pow_pos _)) (Nat.le_of_lt (lt_steps hden num))

/-- A step of more than one unit gives at least the least number with 53 binary digits. -/
theorem le_roundHalfEven_steps {den : Nat} (hden : 0 < den) (num : Nat)
    (hstep : stepExponent num den ≠ 0) :
    2 ^ 52 ≤ roundHalfEven (num * unitsPerOne) (den * 2 ^ stepExponent num den) := by
  refine Nat.le_trans ?_ (roundHalfEven_bounds _ _).1
  rw [Nat.le_div_iff_mul_le (Nat.mul_pos hden (Nat.two_pow_pos _))]
  exact steps_le num den hstep

/-! ## Neighbouring doubles -/

/-- There is a double of `m` steps of `2 ^ e` units, and the next double is one step
further. -/
structure IsStepped (m e : Nat) : Prop where
  lt : m < 2 ^ 53
  le : e ≠ 0 → 2 ^ 52 ≤ m

/-- The quotient lies above the middle between `m` and `m + 1` steps, or in the middle when
the upper one is even. -/
def IsPastMiddle (num den m e : Nat) : Prop :=
  (2 * m + 1) * (den * 2 ^ e) < 2 * (num * unitsPerOne) ∨
    ((2 * m + 1) * (den * 2 ^ e) = 2 * (num * unitsPerOne) ∧ m % 2 = 1)

/-- Steps as units of a step that is at least twice as large. -/
theorem two_mul_two_pow_le {e f : Nat} (h : e < f) : 2 * 2 ^ e ≤ 2 ^ f := by
  rw [← Nat.pow_succ']
  exact Nat.pow_le_pow_right (by decide) h

/-- Where a quotient is rounded to, seen from a double: it stays at or below it, or it reaches
the next double when it is past the middle between them. -/
theorem roundedUnits_cases_stepped {den m e : Nat} (hden : 0 < den) (h : IsStepped m e)
    (num : Nat) :
    (IsPastMiddle num den m e ∧ (m + 1) * 2 ^ e ≤ roundedUnits num den) ∨
      (¬IsPastMiddle num den m e ∧ roundedUnits num den ≤ m * 2 ^ e) := by
  have hbelow := lt_steps hden num
  have hmost := roundHalfEven_steps_le hden num
  rw [roundedUnits_eq]
  unfold IsPastMiddle
  rcases Nat.lt_trichotomy (stepExponent num den) e with hfiner | hsame | hcoarser
  -- A finer step is that of smaller quotients, which are rounded to no more than the double.
  · have hlead : 2 ^ 52 ≤ m := h.le (Nat.ne_zero_of_lt hfiner)
    have hstep := two_mul_two_pow_le hfiner
    have hscaled : 2 * (den * 2 ^ stepExponent num den) ≤ den * 2 ^ e := by
      rw [Nat.mul_left_comm]
      exact Nat.mul_le_mul_left den hstep
    have hproduct : 2 ^ 52 * (den * 2 ^ e) ≤ m * (den * 2 ^ e) := Nat.mul_le_mul_right _ hlead
    have hmiddle : (2 * m + 1) * (den * 2 ^ e) = 2 * (m * (den * 2 ^ e)) + den * 2 ^ e := by
      ring
    refine .inr ⟨by omega, ?_⟩
    calc roundHalfEven (num * unitsPerOne) (den * 2 ^ stepExponent num den) *
          2 ^ stepExponent num den ≤ 2 ^ 53 * 2 ^ stepExponent num den :=
          Nat.mul_le_mul_right _ hmost
      _ ≤ 2 ^ 52 * 2 ^ e := by omega
      _ ≤ m * 2 ^ e := Nat.mul_le_mul_right _ hlead
  -- The quotient is rounded to steps of the same size.
  · subst hsame
    have hround := lt_roundHalfEven_iff
      (Nat.mul_pos hden (Nat.two_pow_pos (stepExponent num den))) (num * unitsPerOne) m
    rw [← hround]
    rcases Nat.lt_or_ge m (roundHalfEven (num * unitsPerOne)
      (den * 2 ^ stepExponent num den)) with hup | hdown
    · exact .inl ⟨hup, Nat.mul_le_mul_right _ hup⟩
    · exact .inr ⟨Nat.not_lt.2 hdown, Nat.mul_le_mul_right _ hdown⟩
  -- A coarser step is that of greater quotients, which are rounded to no less than the next
  -- double.
  · have hleast := steps_le num den (Nat.ne_zero_of_lt hcoarser)
    have hstep := two_mul_two_pow_le hcoarser
    have hscaled : 2 * (den * 2 ^ e) ≤ den * 2 ^ stepExponent num den := by
      rw [Nat.mul_left_comm]
      exact Nat.mul_le_mul_left den hstep
    have hpos : 0 < den * 2 ^ e := Nat.mul_pos hden (Nat.two_pow_pos e)
    have hproduct : (2 * m + 2) * (den * 2 ^ e) ≤ 2 ^ 54 * (den * 2 ^ e) := by
      apply Nat.mul_le_mul_right
      have hdigits := h.lt
      omega
    have hmiddle : (2 * m + 2) * (den * 2 ^ e) =
        (2 * m + 1) * (den * 2 ^ e) + den * 2 ^ e := by
      ring
    have hfloor := le_roundHalfEven_steps hden num (Nat.ne_zero_of_lt hcoarser)
    refine .inl ⟨.inl (by omega), ?_⟩
    calc (m + 1) * 2 ^ e ≤ 2 ^ 53 * 2 ^ e := Nat.mul_le_mul_right _ h.lt
      _ ≤ 2 ^ 52 * 2 ^ stepExponent num den := by omega
      _ ≤ roundHalfEven (num * unitsPerOne) (den * 2 ^ stepExponent num den) *
            2 ^ stepExponent num den := Nat.mul_le_mul_right _ hfloor

/-- A quotient is rounded to at least the next double exactly when it is past the middle. -/
theorem succ_le_roundedUnits_iff {den m e : Nat} (hden : 0 < den) (h : IsStepped m e)
    (num : Nat) :
    (m + 1) * 2 ^ e ≤ roundedUnits num den ↔ IsPastMiddle num den m e := by
  have hpos : 0 < 2 ^ e := Nat.two_pow_pos e
  have hsplit : (m + 1) * 2 ^ e = m * 2 ^ e + 2 ^ e := by ring
  rcases roundedUnits_cases_stepped hden h num with ⟨hpast, hup⟩ | ⟨hpast, hdown⟩
  · exact iff_of_true hup hpast
  · exact iff_of_false (by omega) hpast

/-- A quotient is rounded to more than a double exactly when it is past the middle to the next
one. -/
theorem lt_roundedUnits_iff {den m e : Nat} (hden : 0 < den) (h : IsStepped m e)
    (num : Nat) :
    m * 2 ^ e < roundedUnits num den ↔ IsPastMiddle num den m e := by
  have hpos : 0 < 2 ^ e := Nat.two_pow_pos e
  have hsplit : (m + 1) * 2 ^ e = m * 2 ^ e + 2 ^ e := by ring
  rcases roundedUnits_cases_stepped hden h num with ⟨hpast, hup⟩ | ⟨hpast, hdown⟩
  · exact iff_of_true (by omega) hpast
  · exact iff_of_false (by omega) hpast

/-! ## Doubles above a quotient -/

/-- A double that is not below `2 ^ 52` steps is a multiple of the step. -/
theorem two_pow_dvd_digits {m e s : Nat} (hm : m < 2 ^ 53) (h : 2 ^ 52 * 2 ^ s ≤ m * 2 ^ e) :
    2 ^ s ∣ m * 2 ^ e := by
  have hmost : m * 2 ^ e < 2 ^ 53 * 2 ^ e := Nat.mul_lt_mul_of_pos_right hm (Nat.two_pow_pos e)
  exact Nat.dvd_mul_left_of_dvd (two_pow_dvd_of_lt (by omega)) m

/-- A double that is not below a quotient is a multiple of its step. -/
theorem step_dvd_digits {num den m e : Nat} (hden : 0 < den) (hm : m < 2 ^ 53)
    (h : num * unitsPerOne ≤ m * 2 ^ e * den) : 2 ^ stepExponent num den ∣ m * 2 ^ e := by
  by_cases hunit : stepExponent num den = 0
  · rw [hunit]
    exact Nat.one_dvd _
  · refine two_pow_dvd_digits hm (Nat.le_of_mul_le_mul_right ?_ hden)
    calc 2 ^ 52 * 2 ^ stepExponent num den * den
        = 2 ^ 52 * (den * 2 ^ stepExponent num den) := by ring
      _ ≤ num * unitsPerOne := steps_le num den hunit
      _ ≤ m * 2 ^ e * den := h

/-- Rounding does not carry a quotient above a double. -/
theorem roundedUnits_le_digits {num den m e : Nat} (hden : 0 < den) (hm : m < 2 ^ 53)
    (h : num * unitsPerOne ≤ m * 2 ^ e * den) : roundedUnits num den ≤ m * 2 ^ e := by
  obtain ⟨c, hc⟩ := step_dvd_digits hden hm h
  have hscaled : num * unitsPerOne ≤ c * (den * 2 ^ stepExponent num den) :=
    calc num * unitsPerOne ≤ m * 2 ^ e * den := h
      _ = c * (den * 2 ^ stepExponent num den) := by rw [hc]; ring
  have hround := roundHalfEven_le (Nat.mul_pos hden (Nat.two_pow_pos _)) hscaled
  rw [roundedUnits_eq, hc, Nat.mul_comm (2 ^ stepExponent num den)]
  exact Nat.mul_le_mul_right _ hround

/-- A quotient less than half a step below a double is rounded up to it. -/
theorem digits_le_roundedUnits {num den m e : Nat} (hden : 0 < den) (hm : m < 2 ^ 53)
    (h : num * unitsPerOne ≤ m * 2 ^ e * den)
    (hnear : 2 * (m * 2 ^ e * den) < 2 * (num * unitsPerOne) + den * 2 ^ stepExponent num den) :
    m * 2 ^ e ≤ roundedUnits num den := by
  obtain ⟨c, hc⟩ := step_dvd_digits hden hm h
  rw [roundedUnits_eq, hc, Nat.mul_comm (2 ^ stepExponent num den)]
  apply Nat.mul_le_mul_right
  cases c with
  | zero => exact Nat.zero_le _
  | succ c =>
      apply lt_roundHalfEven (Nat.mul_pos hden (Nat.two_pow_pos _))
      have hproduct : m * 2 ^ e * den = c * (den * 2 ^ stepExponent num den) +
          den * 2 ^ stepExponent num den := by
        rw [hc]
        ring
      omega

/-- A quotient that is not below a whole number with 54 binary digits has a step of more than
one. -/
theorem large_stepExponent {num den k : Nat} (hden : 0 < den) (hk : 2 ^ 53 ≤ k)
    (h : k * den ≤ num) : 1075 ≤ stepExponent num den := by
  have hleast : 2 ^ 1127 ≤ num * unitsPerOne / den := by
    have hunits := two_pow_mul_unitsPerOne (show 53 + 1074 = 1127 from rfl)
    rw [Nat.le_div_iff_mul_le hden, ← hunits]
    calc 2 ^ 53 * unitsPerOne * den ≤ k * unitsPerOne * den :=
          Nat.mul_le_mul_right _ (Nat.mul_le_mul_right _ hk)
      _ = k * den * unitsPerOne := Nat.mul_right_comm _ _ _
      _ ≤ num * unitsPerOne := Nat.mul_le_mul_right _ h
  have hlog := le_log2_of_two_pow_le hleast
  unfold stepExponent
  omega

/-! ## Quotients that are rounded to zero -/

/-- A quotient that is not zero is rounded to more than zero when it is more than half a
unit. -/
theorem roundedUnits_pos_iff {num den : Nat} (hden : 0 < den) :
    0 < roundedUnits num den ↔ den < 2 ^ 1075 * num := by
  have hzero : IsStepped 0 0 := ⟨by decide, fun h => absurd rfl h⟩
  have hunits : 2 * (num * unitsPerOne) = 2 ^ 1075 * num := by
    rw [← two_mul_unitsPerOne, Nat.mul_right_comm, Nat.mul_assoc]
  have hround := lt_roundedUnits_iff hden hzero num
  rw [IsPastMiddle, hunits, Nat.zero_mul] at hround
  generalize 2 ^ 1075 * num = bound at hround ⊢
  simpa using hround

/-! ## Quotients without a finite double -/

/-- The quotients that are too large for a finite double are those that are not below the
middle between the largest one and the next power of two. -/
theorem unitsLimit_le_roundedUnits_iff {num den : Nat} (hden : 0 < den) :
    unitsLimit ≤ roundedUnits num den ↔ (2 ^ 1024 - 2 ^ 970) * den ≤ num := by
  have hlargest : IsStepped (2 ^ 53 - 1) 2045 := ⟨by decide, fun _ => by decide⟩
  have hlimit : (2 ^ 53 - 1 + 1) * 2 ^ 2045 = unitsLimit := by
    rw [unitsLimit, Nat.sub_add_cancel Nat.one_le_two_pow,
      two_pow_mul_eq (show 53 + 2045 = 2098 from rfl)]
  have hodd : (2 ^ 53 - 1) % 2 = 1 := by decide
  have hpast : IsPastMiddle num den (2 ^ 53 - 1) 2045 ↔
      (2 * (2 ^ 53 - 1) + 1) * (den * 2 ^ 2045) ≤ 2 * (num * unitsPerOne) := by
    rw [Nat.le_iff_lt_or_eq]
    exact or_congr_right (and_iff_left hodd)
  have hleft : (2 * (2 ^ 53 - 1) + 1) * (den * 2 ^ 2045) =
      (2 ^ 1024 - 2 ^ 970) * den * 2 ^ 1075 := by
    have hdigits : 2 * (2 ^ 53 - 1) + 1 = 2 ^ 54 - 1 := by decide
    rw [hdigits, ← two_pow_mul_eq (show 54 + 970 = 1024 from rfl),
      ← two_pow_mul_eq (show 970 + 1075 = 2045 from rfl)]
    generalize 2 ^ 970 = middle
    generalize 2 ^ 1075 = units
    have hfactor : 2 ^ 54 * middle - middle = (2 ^ 54 - 1) * middle := by omega
    rw [hfactor]
    ring
  have hright : 2 * (num * unitsPerOne) = num * 2 ^ 1075 := by
    rw [← two_mul_unitsPerOne, Nat.mul_left_comm]
  generalize 2 ^ 1024 - 2 ^ 970 = bound at hleft ⊢
  calc unitsLimit ≤ roundedUnits num den
      ↔ IsPastMiddle num den (2 ^ 53 - 1) 2045 := by
        rw [← hlimit, succ_le_roundedUnits_iff hden hlargest]
    _ ↔ bound * den * 2 ^ 1075 ≤ num * 2 ^ 1075 := by rw [hpast, hleft, hright]
    _ ↔ bound * den ≤ num := Nat.mul_le_mul_right_iff (Nat.two_pow_pos 1075)

end Numeric
end PagedQuery
