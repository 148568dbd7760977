import Mathlib.Algebra.Order.Field.Rat
import Mathlib.Tactic.Linarith
import Mathlib.Tactic.LinearCombination
import PagedQuery.Numeric.Decimal
import PagedQuery.Proofs.RoundedDoubles

/-!
# The double nearest to a number

A rounded quotient is the finite double nearest to it, of two equally near ones the one that ends
in an even binary digit.  There is only one such double, so this says what rounding does without
saying how it is done.

Main results:

- Theorem `isNearest_roundedUnits`: rounding takes the nearest double.
- Theorem `IsNearest.unique`: a number has one nearest double.
- Theorem `ofRatio_of_lt` and Theorem `ofRatio_of_le`: which quotients have a finite double.
-/

namespace PagedQuery
namespace Numeric

/-! ## Finite doubles -/

/-- So many units are a finite double: up to trailing zeros they have at most 53 binary
digits. -/
structure IsFiniteUnits (units : Nat) : Prop where
  lt : units < unitsLimit
  digits : ∃ m e, m < 2 ^ 53 ∧ units = m * 2 ^ e

/-- The last binary digit that a double keeps is even. -/
def EndsEven (units : Nat) : Prop := ∃ m e, IsStepped m e ∧ units = m * 2 ^ e ∧ m % 2 = 0

/-- How far a number is from a double, in units. -/
def unitsBetween (amount : ℚ) (units : Nat) : ℚ := |amount * unitsPerOne - units|

/-- The double is the finite one nearest to the number, and when another one is equally near it
is the one that ends in an even digit. -/
structure IsNearest (amount : ℚ) (units : Nat) : Prop where
  finite : IsFiniteUnits units
  le : ∀ other, IsFiniteUnits other → unitsBetween amount units ≤ unitsBetween amount other
  even : ∀ other, IsFiniteUnits other → other ≠ units →
    unitsBetween amount other = unitsBetween amount units → EndsEven units

/-- Zero is a finite double. -/
theorem isFiniteUnits_zero : IsFiniteUnits 0 :=
  ⟨unitsLimit_pos, 0, 0, by decide, (Nat.zero_mul _).symm⟩

/-! ## Multiples of a step -/

section Steps

variable {place step : ℚ} {n k : Nat}

/-- The place lies within half a step of the multiple, and on an end of this range only when the
multiple is even. -/
structure IsWithinHalf (place step : ℚ) (n : Nat) : Prop where
  low : 2 * (n * step) ≤ 2 * place + step
  high : 2 * place ≤ 2 * (n * step) + step
  even : 2 * (n * step) = 2 * place + step ∨ 2 * place = 2 * (n * step) + step → n % 2 = 0

/-- A place up to one half is within half a unit of zero. -/
theorem isWithinHalf_zero (hsign : 0 ≤ place) (h : 2 * place ≤ 1) : IsWithinHalf place 1 0 := by
  have hzero : 2 * (((0 : Nat) : ℚ) * 1) = 0 := by rw [Nat.cast_zero, zero_mul, mul_zero]
  refine ⟨?_, ?_, fun _ => rfl⟩
  · rw [hzero]
    linarith
  · rw [hzero]
    linarith

/-- Different multiples are at least a step apart, so the others are at least half a step away. -/
theorem IsWithinHalf.half_le (hstep : 0 < step) (h : IsWithinHalf place step n) (hne : k ≠ n) :
    step ≤ 2 * |place - k * step| := by
  rcases Nat.lt_or_gt_of_ne hne with hlt | hgt
  · have hnext : ((k : ℚ) + 1) * step ≤ n * step := by
      refine mul_le_mul_of_nonneg_right ?_ hstep.le
      exact_mod_cast Nat.succ_le_of_lt hlt
    linarith [h.low, le_abs_self (place - k * step)]
  · have hnext : ((n : ℚ) + 1) * step ≤ k * step := by
      refine mul_le_mul_of_nonneg_right ?_ hstep.le
      exact_mod_cast Nat.succ_le_of_lt hgt
    linarith [h.high, neg_abs_le (place - k * step)]

/-- The multiple itself is at most half a step away. -/
theorem IsWithinHalf.le_half (h : IsWithinHalf place step n) :
    2 * |place - n * step| ≤ step := by
  have habs : |place - n * step| ≤ step / 2 :=
    abs_le.2 ⟨by linarith [h.low], by linarith [h.high]⟩
  linarith

/-- No other multiple is nearer. -/
theorem IsWithinHalf.le (hstep : 0 < step) (h : IsWithinHalf place step n) (k : Nat) :
    |place - n * step| ≤ |place - k * step| := by
  by_cases hne : k = n
  · rw [hne]
  · linarith [h.half_le hstep hne, h.le_half]

/-- When another multiple is equally near, the multiple is even. -/
theorem IsWithinHalf.even_of_tie (hstep : 0 < step) (h : IsWithinHalf place step n)
    (hne : k ≠ n) (htie : |place - k * step| = |place - n * step|) : n % 2 = 0 := by
  have hhalf : 2 * |place - n * step| = step := by
    linarith [h.half_le hstep hne, h.le_half]
  apply h.even
  rcases abs_choice (place - n * step) with habs | habs
  · exact .inr (by linarith)
  · exact .inl (by linarith)

/-- What lies below a multiple that is not above the place is further away. -/
theorem IsWithinHalf.lt_of_below {x : ℚ} (hstep : 0 < step) (h : IsWithinHalf place step n)
    (hlow : x < k * step) (hreached : k * step ≤ place) :
    |place - n * step| < |place - x| :=
  calc |place - n * step| ≤ |place - k * step| := h.le hstep k
    _ = place - k * step := abs_of_nonneg (sub_nonneg.2 hreached)
    _ < place - x := sub_lt_sub_left hlow place
    _ ≤ |place - x| := le_abs_self _

end Steps

/-- A quotient lies within one half of the whole number that it is rounded to. -/
theorem roundHalfEven_bounds_half {den : Nat} (hden : 0 < den) (num : Nat) :
    2 * (roundHalfEven num den * den) ≤ 2 * num + den ∧
      2 * num ≤ 2 * (roundHalfEven num den * den) + den ∧
      (2 * (roundHalfEven num den * den) = 2 * num + den ∨
        2 * num = 2 * (roundHalfEven num den * den) + den → roundHalfEven num den % 2 = 0) := by
  have hnext := lt_roundHalfEven_iff hden num (roundHalfEven num den)
  have hbelow := lt_roundHalfEven_iff hden num (roundHalfEven num den - 1)
  generalize roundHalfEven num den = n at hnext hbelow ⊢
  have hmiddle : (2 * n + 1) * den = 2 * (n * den) + den := by ring
  cases n with
  | zero => omega
  | succ n =>
      have hprevious : (2 * n + 1) * den + den = 2 * ((n + 1) * den) := by ring
      rw [Nat.add_sub_cancel] at hbelow
      omega

/-! ## Rounded quotients -/

/-- A quotient lies within half a step of the multiple that it is rounded to. -/
theorem isWithinHalf_quotient {place : ℚ} {num den step : Nat} (hden : 0 < den)
    (hstep : 0 < step) (hplace : place * den = num) :
    IsWithinHalf place step (roundHalfEven num (den * step)) := by
  have hpos : (0 : ℚ) < den := Nat.cast_pos.2 hden
  obtain ⟨hlow, hhigh, heven⟩ := roundHalfEven_bounds_half (Nat.mul_pos hden hstep) num
  generalize roundHalfEven num (den * step) = n at hlow hhigh heven
  -- The bounds of whole numbers are those of the quotient times its denominator.
  refine ⟨?_, ?_, ?_⟩
  · have hscaled : (2 * (n * (den * step)) : ℚ) ≤ 2 * num + den * step := by exact_mod_cast hlow
    rw [← hplace] at hscaled
    exact le_of_mul_le_mul_right (by linarith) hpos
  · have hscaled : (2 * num : ℚ) ≤ 2 * (n * (den * step)) + den * step := by
      exact_mod_cast hhigh
    rw [← hplace] at hscaled
    exact le_of_mul_le_mul_right (by linarith) hpos
  · rintro (hend | hend)
    · have hscaled : (2 * (n * (den * step)) : ℚ) = 2 * num + den * step := by
        rw [← hplace]
        linear_combination (den : ℚ) * hend
      exact heven (.inl (by exact_mod_cast hscaled))
    · have hscaled : (2 * num : ℚ) = 2 * (n * (den * step)) + den * step := by
        rw [← hplace]
        linear_combination (den : ℚ) * hend
      exact heven (.inr (by exact_mod_cast hscaled))

section Quotients

variable {num den : Nat}

/-- An even number of steps is a double that ends even. -/
theorem endsEven_steps {n s : Nat} (hmost : n ≤ 2 ^ 53) (hleast : s ≠ 0 → 2 ^ 52 ≤ n)
    (heven : n % 2 = 0) : EndsEven (n * 2 ^ s) := by
  rcases Nat.lt_or_eq_of_le hmost with hlt | rfl
  · exact ⟨n, s, ⟨hlt, hleast⟩, rfl, heven⟩
  · refine ⟨2 ^ 52, s + 1, ⟨by decide, fun _ => Nat.le_refl _⟩, ?_, by decide⟩
    rw [Nat.pow_succ]
    omega

/-- A rounded quotient below the limit is a finite double. -/
theorem isFiniteUnits_roundedUnits (hden : 0 < den) (h : roundedUnits num den < unitsLimit) :
    IsFiniteUnits (roundedUnits num den) := by
  refine ⟨h, ?_⟩
  rw [roundedUnits_eq]
  rcases Nat.lt_or_eq_of_le (roundHalfEven_steps_le hden num) with hlt | heq
  · exact ⟨_, _, hlt, rfl⟩
  · refine ⟨1, 53 + stepExponent num den, by decide, ?_⟩
    rw [heq, Nat.one_mul, two_pow_mul_eq rfl]

/-- A double is a multiple of the step of a quotient, or it lies below a multiple that is not
above the quotient. -/
theorem multiple_or_below (num den : Nat) {other : Nat} (h : IsFiniteUnits other) :
    (∃ k, other = k * 2 ^ stepExponent num den) ∨
      (other < 2 ^ 52 * 2 ^ stepExponent num den ∧
        2 ^ 52 * 2 ^ stepExponent num den * den ≤ num * unitsPerOne) := by
  obtain ⟨-, m, e, hm, rfl⟩ := h
  by_cases hunit : stepExponent num den = 0
  · exact .inl ⟨m * 2 ^ e, by rw [hunit, Nat.pow_zero, Nat.mul_one]⟩
  · by_cases hlow : 2 ^ 52 * 2 ^ stepExponent num den ≤ m * 2 ^ e
    · obtain ⟨k, hk⟩ := two_pow_dvd_digits hm hlow
      exact .inl ⟨k, by rw [hk, Nat.mul_comm]⟩
    · refine .inr ⟨Nat.not_le.1 hlow, ?_⟩
      rw [Nat.mul_right_comm, Nat.mul_assoc]
      exact steps_le num den hunit

/-- A quotient in units, times its denominator. -/
theorem inUnits_mul (hden : 0 < den) (num : Nat) :
    (num / den : ℚ) * unitsPerOne * den = (num * unitsPerOne : Nat) := by
  have hne : (den : ℚ) ≠ 0 := (Nat.cast_pos.2 hden).ne'
  rw [mul_right_comm, div_mul_cancel₀ _ hne, Nat.cast_mul]

/-- A quotient in units lies within half a step of the steps that it is rounded to. -/
theorem isWithinHalf_steps (hden : 0 < den) (num : Nat) :
    IsWithinHalf ((num / den : ℚ) * unitsPerOne) (2 ^ stepExponent num den : Nat)
      (roundHalfEven (num * unitsPerOne) (den * 2 ^ stepExponent num den)) :=
  isWithinHalf_quotient hden (Nat.two_pow_pos _) (inUnits_mul hden num)

/-- A double that is no multiple of the step is further away than what a quotient is rounded
to. -/
theorem unitsBetween_lt_of_below {other : Nat} (hden : 0 < den)
    (hlow : other < 2 ^ 52 * 2 ^ stepExponent num den)
    (hreached : 2 ^ 52 * 2 ^ stepExponent num den * den ≤ num * unitsPerOne) :
    unitsBetween (num / den) (roundedUnits num den) < unitsBetween (num / den) other := by
  rw [roundedUnits_eq, unitsBetween, Nat.cast_mul]
  refine (isWithinHalf_steps hden num).lt_of_below (k := 2 ^ 52)
    (Nat.cast_pos.2 (Nat.two_pow_pos _)) ?_ ?_
  · exact_mod_cast hlow
  · refine le_of_mul_le_mul_right ?_ (Nat.cast_pos.2 hden)
    rw [inUnits_mul hden num]
    exact_mod_cast hreached

/-- Rounding takes the nearest double, of two equally near ones the one that ends even. -/
theorem isNearest_roundedUnits (hden : 0 < den) (h : roundedUnits num den < unitsLimit) :
    IsNearest (num / den) (roundedUnits num den) := by
  have hstep : (0 : ℚ) < (2 ^ stepExponent num den : Nat) := Nat.cast_pos.2 (Nat.two_pow_pos _)
  have hwithin := isWithinHalf_steps hden num
  refine ⟨isFiniteUnits_roundedUnits hden h, fun other hother => ?_,
    fun other hother hne htie => ?_⟩
  · rcases multiple_or_below num den hother with ⟨k, rfl⟩ | ⟨hlow, hreached⟩
    · rw [roundedUnits_eq, unitsBetween, unitsBetween, Nat.cast_mul, Nat.cast_mul]
      exact hwithin.le hstep k
    · exact (unitsBetween_lt_of_below hden hlow hreached).le
  · rcases multiple_or_below num den hother with ⟨k, rfl⟩ | ⟨hlow, hreached⟩
    · rw [roundedUnits_eq] at hne htie ⊢
      rw [unitsBetween, unitsBetween, Nat.cast_mul, Nat.cast_mul] at htie
      refine endsEven_steps (roundHalfEven_steps_le hden num) (le_roundHalfEven_steps hden num)
        (hwithin.even_of_tie hstep ?_ htie)
      intro hsame
      exact hne (congrArg (· * 2 ^ stepExponent num den) hsame)
    · exact absurd htie (unitsBetween_lt_of_below hden hlow hreached).ne'

end Quotients

/-! ## One nearest double -/

section Unique

variable {m e : Nat} {amount : ℚ} {units other : Nat}

/-- There is no double between one and the next. -/
theorem IsStepped.next_le (h : IsStepped m e) (hother : IsFiniteUnits other)
    (hlt : m * 2 ^ e < other) : (m + 1) * 2 ^ e ≤ other := by
  obtain ⟨-, m', e', hm', rfl⟩ := hother
  by_cases hunit : e = 0
  · rw [hunit, Nat.pow_zero, Nat.mul_one] at hlt ⊢
    exact hlt
  · have hlead : 2 ^ 52 * 2 ^ e ≤ m * 2 ^ e := Nat.mul_le_mul_right _ (h.le hunit)
    obtain ⟨k, hk⟩ := two_pow_dvd_digits hm' (Nat.le_trans hlead (Nat.le_of_lt hlt))
    rw [hk, Nat.mul_comm] at hlt ⊢
    exact Nat.mul_le_mul_left _ (Nat.lt_of_mul_lt_mul_left hlt)

/-- The double after one that ends even ends in an odd digit. -/
theorem IsStepped.next_not_even (h : IsStepped m e) (heven : m % 2 = 0) :
    ¬EndsEven ((m + 1) * 2 ^ e) := by
  rintro ⟨k, f, hk, hunits, hkeven⟩
  have hm := h.lt
  have hlt := hk.lt
  rcases Nat.lt_trichotomy e f with hcoarser | rfl | hfiner
  · have hstep := two_mul_two_pow_le hcoarser
    have hleast : 2 ^ 52 * 2 ^ f ≤ k * 2 ^ f :=
      Nat.mul_le_mul_right _ (hk.le (Nat.ne_zero_of_lt hcoarser))
    have hmost : (m + 1) * 2 ^ e < 2 ^ 53 * 2 ^ e :=
      Nat.mul_lt_mul_of_pos_right (by omega) (Nat.two_pow_pos e)
    omega
  · have hsame := Nat.eq_of_mul_eq_mul_right (Nat.two_pow_pos e) hunits
    omega
  · have hstep := two_mul_two_pow_le hfiner
    have hleast : 2 ^ 52 * 2 ^ e ≤ (m + 1) * 2 ^ e :=
      Nat.mul_le_mul_right _ (Nat.le_succ_of_le (h.le (Nat.ne_zero_of_lt hfiner)))
    have hmost : k * 2 ^ f < 2 ^ 53 * 2 ^ f :=
      Nat.mul_lt_mul_of_pos_right hlt (Nat.two_pow_pos f)
    omega

/-- A place that is equally far from two numbers is nearer to all numbers between them. -/
theorem abs_sub_lt_of_between {place low mid high : ℚ} (hlow : low < mid) (hhigh : mid < high)
    (hequal : |place - low| = |place - high|) : |place - mid| < |place - low| := by
  have hcenter : 2 * place = low + high := by
    rcases abs_eq_abs.1 hequal with hsame | hopposite
    · linarith
    · linarith
  rw [abs_of_nonneg (show 0 ≤ place - low by linarith)]
  exact abs_lt.2 ⟨by linarith, by linarith⟩

/-- A nearest double is not below another one. -/
theorem IsNearest.le_of_isNearest (h : IsNearest amount units) (hother : IsNearest amount other) :
    other ≤ units := by
  by_contra hnot
  have hlt : units < other := Nat.not_le.1 hnot
  have hequal : unitsBetween amount units = unitsBetween amount other :=
    le_antisymm (h.le other hother.finite) (hother.le units h.finite)
  -- Both end even, so there is another double between them.
  have hodd := hother.even units h.finite hlt.ne hequal
  obtain ⟨m, e, hstepped, rfl, heven⟩ := h.even other hother.finite hlt.ne' hequal.symm
  have hnext : (m + 1) * 2 ^ e < other := by
    refine Nat.lt_of_le_of_ne (hstepped.next_le hother.finite hlt) ?_
    rintro rfl
    exact hstepped.next_not_even heven hodd
  have hfinite : IsFiniteUnits ((m + 1) * 2 ^ e) := by
    have hdigits := hstepped.lt
    exact ⟨Nat.lt_trans hnext hother.finite.lt, m + 1, e, by omega, rfl⟩
  have hstep : m * 2 ^ e < (m + 1) * 2 ^ e :=
    Nat.mul_lt_mul_of_pos_right (Nat.lt_succ_self m) (Nat.two_pow_pos e)
  refine absurd (h.le _ hfinite) (not_le.2 ?_)
  exact abs_sub_lt_of_between (Nat.cast_lt.2 hstep) (Nat.cast_lt.2 hnext) hequal

/-- A number has one nearest double. -/
theorem IsNearest.unique (h : IsNearest amount units) (hother : IsNearest amount other) :
    units = other :=
  Nat.le_antisymm (hother.le_of_isNearest h) (h.le_of_isNearest hother)

end Unique

/-! ## Doubles of quotients -/

section OfRatio

variable {num den : Nat}

/-- A quotient below the middle between the largest double and the next power of two has a
nearest double. -/
theorem ofRatio_of_lt (negative : Bool) (hden : 0 < den)
    (h : num < (2 ^ 1024 - 2 ^ 970) * den) :
    ∃ units, Double.ofRatio negative num den = .finite negative units ∧
      IsNearest (num / den) units := by
  have hlimit : roundedUnits num den < unitsLimit := by
    rw [← Nat.not_le, unitsLimit_le_roundedUnits_iff hden, Nat.not_le]
    exact h
  refine ⟨_, ?_, isNearest_roundedUnits hden hlimit⟩
  simp only [Double.ofRatio, if_pos hlimit]

/-- All other quotients are infinite. -/
theorem ofRatio_of_le (negative : Bool) (hden : 0 < den)
    (h : (2 ^ 1024 - 2 ^ 970) * den ≤ num) :
    Double.ofRatio negative num den = .infinity negative := by
  have hlimit := Nat.not_lt.2 ((unitsLimit_le_roundedUnits_iff hden).2 h)
  simp only [Double.ofRatio, if_neg hlimit]

/-- A quotient of at most half a unit is zero. -/
theorem ofRatio_of_tiny (negative : Bool) (hden : 0 < den) (h : 2 ^ 1075 * num ≤ den) :
    Double.ofRatio negative num den = .finite negative 0 := by
  have hzero : roundedUnits num den = 0 := by
    have hround : 0 < roundedUnits num den ↔ den < 2 ^ 1075 * num := roundedUnits_pos_iff hden
    generalize 2 ^ 1075 * num = bound at h hround
    omega
  simp only [Double.ofRatio, hzero, if_pos unitsLimit_pos]

/-- Zero is the double nearest to the numbers of at most half a unit. -/
theorem isNearest_zero {amount : ℚ} (hsign : 0 ≤ amount) (h : 2 * (amount * unitsPerOne) ≤ 1) :
    IsNearest amount 0 := by
  have hplace : 0 ≤ amount * unitsPerOne := mul_nonneg hsign (Nat.cast_nonneg _)
  have hwithin := isWithinHalf_zero hplace h
  refine ⟨isFiniteUnits_zero, fun other _ => ?_, fun _ _ _ _ => ?_⟩
  · simpa only [mul_one, unitsBetween] using hwithin.le zero_lt_one other
  · exact ⟨0, 0, ⟨by decide, fun h => absurd rfl h⟩, rfl, rfl⟩

end OfRatio

end Numeric
end PagedQuery
