import Mathlib.Tactic.Ring
import PagedQuery.Page

/-!
# Quotients of page counts

The number of pages is the next whole number above a quotient that is rounded to a
double.  A quotient of a number of at most 53 binary digits that is not whole lies
further from the whole numbers than rounding can take it, so it never falls onto the
whole number below it, and never jumps over the one above it.

Main results:

- Theorem `roundedUnits_le` and Theorem `lt_roundedUnits`: rounding does not carry a
  quotient over a whole number.
- Theorem `ceilQuotient?_eq`: the next whole number above the rounded quotient is the
  one above the quotient.
-/

namespace PagedQuery
namespace Numeric

/-! ## Rounding to the nearest whole number -/

/-- Rounding leaves a quotient alone or takes the next whole number. -/
theorem roundHalfEven_bounds (num den : Nat) :
    num / den ≤ roundHalfEven num den ∧ roundHalfEven num den ≤ num / den + 1 := by
  simp only [roundHalfEven]
  split
  · omega
  · split <;> omega

/-- Rounding does not carry a quotient above a whole number. -/
theorem roundHalfEven_le {num den m : Nat} (hden : 0 < den) (h : num ≤ m * den) :
    roundHalfEven num den ≤ m := by
  have hbounds := roundHalfEven_bounds num den
  have hquotient : num / den ≤ m := Nat.div_le_of_le_mul (Nat.mul_comm m den ▸ h)
  rcases Nat.lt_or_eq_of_le hquotient with hlt | heq
  · omega
  · have hrest : num % den = 0 := by
      have hsplit := Nat.div_add_mod num den
      rw [heq, Nat.mul_comm] at hsplit
      omega
    have hexact : roundHalfEven num den = num / den := by
      simp [roundHalfEven, hrest, hden]
    omega

/-- A quotient that lies more than one half above a whole number is rounded to a greater
one. -/
theorem lt_roundHalfEven {num den m : Nat} (hden : 0 < den)
    (h : 2 * (m * den) + den < 2 * num) : m < roundHalfEven num den := by
  have hbounds := roundHalfEven_bounds num den
  have hsplit := Nat.div_add_mod num den
  have hrest := Nat.mod_lt num hden
  rcases Nat.lt_trichotomy (num / den) m with hlt | heq | hgt
  · have hmul : den * (num / den + 1) ≤ den * m := Nat.mul_le_mul_left den hlt
    rw [Nat.mul_succ] at hmul
    rw [Nat.mul_comm m den] at h
    omega
  · have hup : den < 2 * (num % den) := by
      rw [heq, Nat.mul_comm] at hsplit
      omega
    have hnext : roundHalfEven num den = num / den + 1 := by
      simp [roundHalfEven, Nat.not_lt.2 (Nat.le_of_lt hup), hup]
    omega
  · omega

/-! ## Rounding to 53 binary digits -/

/-- There are units in the number one. -/
theorem one_le_unitsPerOne : 1 ≤ unitsPerOne := by
  unfold unitsPerOne
  apply Nat.pow_pos
  decide

/-- The number one has more units than a double has digits. -/
theorem digits_le_unitsPerOne : 2 ^ 53 ≤ unitsPerOne := by
  unfold unitsPerOne
  apply Nat.pow_le_pow_right <;> decide

/-- A power of two divides another one that it is less than twice of. -/
theorem two_pow_dvd_of_lt {m n : Nat} (h : 2 ^ m < 2 * 2 ^ n) : 2 ^ m ∣ 2 ^ n := by
  rw [← Nat.pow_succ'] at h
  have hexponent := (Nat.pow_lt_pow_iff_right (by decide)).1 h
  exact Nat.pow_dvd_pow 2 (Nat.lt_succ_iff.1 hexponent)

/-- A product of powers of two is less than a higher power. -/
theorem two_pow_mul_lt {a b c : Nat} (h : a + b < c) : 2 ^ a * 2 ^ b < 2 ^ c := by
  rw [← Nat.pow_add]
  exact Nat.pow_lt_pow_right (by decide) h

/-- The numbers of at most 53 binary digits are far from the largest double. -/
theorem digits_lt_unitsLimit : 2 ^ 53 * unitsPerOne < unitsLimit := by
  unfold unitsPerOne unitsLimit
  apply two_pow_mul_lt
  decide

/-- Rounding to multiples of a step does not carry a quotient above a whole number. -/
theorem stepped_le {num den k step : Nat} (hden : 0 < den) (hstep : 0 < step)
    (hdvd : step ∣ unitsPerOne) (h : num ≤ k * den) :
    roundHalfEven (num * unitsPerOne) (den * step) * step ≤ k * unitsPerOne := by
  obtain ⟨c, hc⟩ := hdvd
  have hscaled : num * unitsPerOne ≤ k * c * (den * step) :=
    calc num * unitsPerOne ≤ k * den * unitsPerOne := Nat.mul_le_mul_right _ h
      _ = k * c * (den * step) := by rw [hc]; ring
  have hround := roundHalfEven_le (Nat.mul_pos hden hstep) hscaled
  calc roundHalfEven (num * unitsPerOne) (den * step) * step ≤ k * c * step :=
        Nat.mul_le_mul_right _ hround
    _ = k * unitsPerOne := by rw [hc]; ring

/-- Rounding to multiples of a step does not carry a quotient down to a whole number below
it, when the quotients of the divisor lie further apart than the step. -/
theorem lt_stepped {num den k step : Nat} (hden : 0 < den) (hstep : 0 < step)
    (hdvd : step ∣ unitsPerOne) (hfine : den * step < 2 * unitsPerOne) (h : k * den < num) :
    k * unitsPerOne < roundHalfEven (num * unitsPerOne) (den * step) * step := by
  obtain ⟨c, hc⟩ := hdvd
  have hnext : (k * den + 1) * unitsPerOne ≤ num * unitsPerOne :=
    Nat.mul_le_mul_right _ h
  have hsplit : (k * den + 1) * unitsPerOne = k * c * (den * step) + unitsPerOne := by
    rw [hc]
    ring
  have hround : k * c < roundHalfEven (num * unitsPerOne) (den * step) :=
    lt_roundHalfEven (Nat.mul_pos hden hstep) (by omega)
  calc k * unitsPerOne = k * c * step := by rw [hc]; ring
    _ < roundHalfEven (num * unitsPerOne) (den * step) * step :=
        Nat.mul_lt_mul_of_pos_right hround hstep

/-- A quotient of a number of at most 53 binary digits is a double, or it is rounded to
multiples of a step that divides one.  The step is finer than the quotients of the divisor
when the quotient is above one. -/
theorem roundedUnits_cases {num den : Nat} (hden : 0 < den) (hnum : num ≤ 2 ^ 53) :
    roundedUnits num den * den = num * unitsPerOne ∨
      ∃ step, 0 < step ∧ step ∣ unitsPerOne ∧ (den < num → den * step < 2 * unitsPerOne) ∧
        roundedUnits num den =
          roundHalfEven (num * unitsPerOne) (den * step) * step := by
  by_cases hsmall : num * unitsPerOne / den < 2 ^ 53
  · refine .inr ⟨1, Nat.one_pos, Nat.one_dvd _, ?_, ?_⟩
    · intro hlt
      have hlarge := digits_le_unitsPerOne
      omega
    · rw [Nat.mul_one, Nat.mul_one]
      simp only [roundedUnits, if_pos hsmall]
  · have hunits : roundedUnits num den =
        roundHalfEven (num * unitsPerOne)
          (den * 2 ^ ((num * unitsPerOne / den).log2 - 52)) *
            2 ^ ((num * unitsPerOne / den).log2 - 52) := by
      simp only [roundedUnits, if_neg hsmall]
    have hwhole : num * unitsPerOne / den ≠ 0 := by omega
    have hdigits : 53 ≤ (num * unitsPerOne / den).log2 :=
      (Nat.le_log2 hwhole).2 (Nat.not_lt.1 hsmall)
    -- The step is one unit of the last binary digit that is kept.
    generalize hstep : 2 ^ ((num * unitsPerOne / den).log2 - 52) = step at hunits
    have hpos : 0 < step := hstep ▸ Nat.pow_pos (by decide)
    have hlead : 2 ^ 52 * (den * step) ≤ num * unitsPerOne :=
      calc 2 ^ 52 * (den * step) = step * 2 ^ 52 * den := by ring
        _ = 2 ^ (num * unitsPerOne / den).log2 * den := by
            rw [← hstep, ← Nat.pow_add, Nat.sub_add_cancel (by omega)]
        _ ≤ num * unitsPerOne / den * den :=
            Nat.mul_le_mul_right _ (Nat.log2_self_le hwhole)
        _ ≤ num * unitsPerOne := Nat.div_mul_le_self _ _
    have htop : num * unitsPerOne ≤ 2 ^ 53 * unitsPerOne := Nat.mul_le_mul_right _ hnum
    rcases Nat.lt_or_ge (den * step) (2 * unitsPerOne) with hfine | hcoarse
    · refine .inr ⟨step, hpos, ?_, fun _ => hfine, hunits⟩
      have hlt : step < 2 * unitsPerOne :=
        Nat.lt_of_le_of_lt (Nat.le_mul_of_pos_left step hden) hfine
      rw [← hstep] at hlt ⊢
      unfold unitsPerOne at hlt ⊢
      apply two_pow_dvd_of_lt hlt
    · -- Only the largest numerator is left, over a divisor that it is a multiple of.
      have hexact : num * unitsPerOne = 2 ^ 52 * (den * step) := by omega
      refine .inl ?_
      rw [hunits, hexact, roundHalfEven_exact (Nat.mul_pos hden hpos)]
      ring

/-- Rounding does not carry a quotient above a whole number. -/
theorem roundedUnits_le {num den k : Nat} (hden : 0 < den) (hnum : num ≤ 2 ^ 53)
    (h : num ≤ k * den) : roundedUnits num den ≤ k * unitsPerOne := by
  rcases roundedUnits_cases hden hnum with hexact | ⟨step, hstep, hdvd, -, hunits⟩
  · refine Nat.le_of_mul_le_mul_right ?_ hden
    calc roundedUnits num den * den = num * unitsPerOne := hexact
      _ ≤ k * den * unitsPerOne := Nat.mul_le_mul_right _ h
      _ = k * unitsPerOne * den := by ring
  · rw [hunits]
    exact stepped_le hden hstep hdvd h

/-- Rounding does not carry a quotient down to a whole number below it. -/
theorem lt_roundedUnits {num den k : Nat} (hden : 0 < den) (hnum : num ≤ 2 ^ 53)
    (hk : 1 ≤ k) (h : k * den < num) : k * unitsPerOne < roundedUnits num den := by
  rcases roundedUnits_cases hden hnum with hexact | ⟨step, hstep, hdvd, hfine, hunits⟩
  · refine Nat.lt_of_mul_lt_mul_right (a := den) ?_
    calc k * unitsPerOne * den = k * den * unitsPerOne := by ring
      _ < num * unitsPerOne := Nat.mul_lt_mul_of_pos_right h one_le_unitsPerOne
      _ = roundedUnits num den * den := hexact.symm
  · have hlt : den < num := Nat.lt_of_le_of_lt (Nat.le_mul_of_pos_left den hk) h
    rw [hunits]
    exact lt_stepped hden hstep hdvd (hfine hlt) h

/-! ## The next whole number -/

/-- The next whole number above some units is greater than the whole numbers with fewer
units. -/
theorem lt_ceilUnits_iff {k units : Nat} :
    k < (units + (unitsPerOne - 1)) / unitsPerOne ↔ k * unitsPerOne < units := by
  have hpos := one_le_unitsPerOne
  rw [← Nat.succ_le_iff, Nat.le_div_iff_mul_le hpos, Nat.succ_mul]
  omega

/-- The next whole number above a rounded quotient is there, and from one on it is above
the same whole numbers as the quotient. -/
theorem ceilQuotient?_eq {num den : Nat} (hden : 0 < den) (hnum : num ≤ 2 ^ 53) :
    ∃ n, ceilQuotient? num den = some n ∧ ∀ k, 1 ≤ k → (k < n ↔ k * den < num) := by
  have hbound : roundedUnits num den < unitsLimit :=
    calc roundedUnits num den ≤ num * unitsPerOne :=
          roundedUnits_le hden hnum (Nat.le_mul_of_pos_right num hden)
      _ ≤ 2 ^ 53 * unitsPerOne := Nat.mul_le_mul_right _ hnum
      _ < unitsLimit := digits_lt_unitsLimit
  refine ⟨(roundedUnits num den + (unitsPerOne - 1)) / unitsPerOne, ?_, ?_⟩
  · simp only [ceilQuotient?, if_pos hbound]
  · intro k hk
    rw [lt_ceilUnits_iff]
    constructor
    · intro hlt
      exact Nat.lt_of_not_le fun hle => Nat.not_lt.2 (roundedUnits_le hden hnum hle) hlt
    · exact lt_roundedUnits hden hnum hk

end Numeric
end PagedQuery
