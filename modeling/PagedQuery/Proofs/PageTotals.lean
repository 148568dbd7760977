import PagedQuery.Proofs.RoundedDoubles

/-!
# When the number of pages is exact

The number of pages is the next whole number above a quotient that is rounded to a double.
It is the least number of pages with room for all rows unless rounding carries the quotient
over a whole number, and there is none when the quotient is too large for a finite double.
Both are told by comparing whole numbers, for any number of rows and any size of a page.

Main results:

- Theorem `ceilQuotient?_exact_iff`: when the next whole number above a rounded quotient is
  the one above the quotient.
- Theorem `totalPages_exact_iff`: exactly when the number of pages is right, and exactly when
  there is none.
- Theorem `totalPages_of_small`: it is right for up to `2 ^ 53` rows.
-/

namespace PagedQuery
namespace Numeric

/-! ## Whole numbers among the doubles -/

/-- The whole number is a finite double: up to trailing zeros it has at most 53 binary
digits. -/
def IsWholeDouble (n : Nat) : Prop := n < 2 ^ 1024 ∧ ∃ m e, m < 2 ^ 53 ∧ n = m * 2 ^ e

/-- The quotient of two numbers, which lies above the whole number `k` and not above the next
one, is rounded to more than `k`.  Above zero it must be more than half a unit.  Above any
other number with at most 53 binary digits it must be past the middle to the next double, or
in the middle when the last of the 53 digits of `k` is odd.  Greater numbers with a double
above them are none themselves. -/
def ClearsHalfStep (num den k : Nat) : Prop :=
  if k = 0 then den < 2 ^ 1075 * num
  else k < 2 ^ 53 →
    2 ^ k.log2 * den < 2 ^ 53 * (num - k * den) ∨
      (2 ^ k.log2 * den = 2 ^ 53 * (num - k * den) ∧ 2 ^ 52 ≤ k ∧ k % 2 = 1)

/-- Numbers of at most 53 binary digits are doubles, and so is the next one. -/
theorem isWholeDouble_succ {k : Nat} (h : k < 2 ^ 53) : IsWholeDouble (k + 1) := by
  constructor
  · have hpower := Nat.pow_le_pow_right Nat.two_pos (show 54 ≤ 1024 by decide)
    have hdigits : k + 1 < 2 ^ 54 := by omega
    generalize 2 ^ 1024 = top at hpower ⊢
    exact Nat.lt_of_lt_of_le hdigits hpower
  · rcases Nat.lt_or_eq_of_le (Nat.succ_le_of_lt h) with hlt | heq
    · exact ⟨k + 1, 0, hlt, (Nat.mul_one _).symm⟩
    · exact ⟨1, 53, by decide, by omega⟩

/-- The units of a whole double are digits with trailing zeros. -/
theorem IsWholeDouble.units {n : Nat} (h : IsWholeDouble n) :
    ∃ m e, m < 2 ^ 53 ∧ n * unitsPerOne = m * 2 ^ e := by
  obtain ⟨-, m, e, hm, rfl⟩ := h
  refine ⟨m, e + 1074, hm, ?_⟩
  rw [Nat.mul_assoc, two_pow_mul_unitsPerOne rfl]

/-- A whole double has fewer units than the limit. -/
theorem IsWholeDouble.units_lt {n : Nat} (h : IsWholeDouble n) :
    n * unitsPerOne < unitsLimit := by
  have hlt := Nat.mul_lt_mul_of_pos_right h.1 one_le_unitsPerOne
  rwa [two_pow_mul_unitsPerOne (show 1024 + 1074 = 2098 from rfl)] at hlt

variable {num den k : Nat}

/-- Rounding does not carry a quotient above a whole double. -/
theorem IsWholeDouble.roundedUnits_le {n : Nat} (h : IsWholeDouble n) (hden : 0 < den)
    (hle : num ≤ n * den) : roundedUnits num den ≤ n * unitsPerOne := by
  obtain ⟨m, e, hm, hunits⟩ := h.units
  rw [hunits]
  apply roundedUnits_le_digits hden hm
  calc num * unitsPerOne ≤ n * den * unitsPerOne := Nat.mul_le_mul_right _ hle
    _ = m * 2 ^ e * den := by rw [Nat.mul_right_comm, hunits]

/-- Above a number with 54 binary digits, quotients are rounded to whole numbers. -/
theorem unitsPerOne_dvd_roundedUnits (hden : 0 < den) (hk : 2 ^ 53 ≤ k) (h : k * den ≤ num) :
    unitsPerOne ∣ roundedUnits num den := by
  have hexponent : 1074 ≤ stepExponent num den :=
    Nat.le_of_succ_le (large_stepExponent hden hk h)
  rw [roundedUnits_eq, unitsPerOne]
  exact Nat.dvd_mul_left_of_dvd (Nat.pow_dvd_pow 2 hexponent) _

/-- Only a whole double above a number with 54 binary digits is reached by rounding. -/
theorem isWholeDouble_of_rounded (hden : 0 < den) (hk : 2 ^ 53 ≤ k) (hlow : k * den < num)
    (hlimit : roundedUnits num den < unitsLimit) (hlt : k * unitsPerOne < roundedUnits num den)
    (hle : roundedUnits num den ≤ (k + 1) * unitsPerOne) : IsWholeDouble (k + 1) := by
  have hpos := one_le_unitsPerOne
  have hexponent := large_stepExponent hden hk (Nat.le_of_lt hlow)
  have hmost := roundHalfEven_steps_le hden num
  have hexact : roundedUnits num den = (k + 1) * unitsPerOne := by
    obtain ⟨c, hc⟩ := unitsPerOne_dvd_roundedUnits hden hk (Nat.le_of_lt hlow)
    rw [Nat.mul_comm] at hc
    rw [hc] at hlt hle ⊢
    have hck : k < c := Nat.lt_of_mul_lt_mul_right hlt
    have hcn : c ≤ k + 1 := Nat.le_of_mul_le_mul_right hle hpos
    rw [Nat.le_antisymm hcn hck]
  constructor
  · have hunits := two_pow_mul_unitsPerOne (show 1024 + 1074 = 2098 from rfl)
    rw [hexact, unitsLimit, ← hunits] at hlimit
    generalize 2 ^ 1024 = top at hlimit ⊢
    exact Nat.lt_of_mul_lt_mul_right hlimit
  · rw [roundedUnits_eq] at hexact
    generalize roundHalfEven (num * unitsPerOne) (den * 2 ^ stepExponent num den) = digits
      at hexact hmost
    have hstep : 2 ^ stepExponent num den =
        2 ^ (stepExponent num den - 1074) * unitsPerOne :=
      (two_pow_mul_unitsPerOne (by omega)).symm
    rw [hstep, ← Nat.mul_assoc] at hexact
    have hwhole := Nat.eq_of_mul_eq_mul_right hpos hexact
    rcases Nat.lt_or_eq_of_le hmost with hdigits | hcarry
    · exact ⟨_, _, hdigits, hwhole.symm⟩
    · refine ⟨1, 53 + (stepExponent num den - 1074), by decide, ?_⟩
      rw [← hwhole, hcarry, Nat.one_mul, two_pow_mul_eq rfl]

/-- A whole double above a number with 54 binary digits is reached from all quotients
in between. -/
theorem lt_roundedUnits_of_large (hden : 0 < den) (hk : 2 ^ 53 ≤ k) (hlow : k * den < num)
    (hhigh : num ≤ (k + 1) * den) (h : IsWholeDouble (k + 1)) :
    k * unitsPerOne < roundedUnits num den := by
  obtain ⟨m, e, hm, hunits⟩ := h.units
  have hpos := one_le_unitsPerOne
  have hstep : 2 * unitsPerOne ≤ 2 ^ stepExponent num den := by
    have hexponent := large_stepExponent hden hk (Nat.le_of_lt hlow)
    have hpower := Nat.pow_le_pow_right Nat.two_pos hexponent
    rwa [← two_mul_unitsPerOne] at hpower
  have hbelow : (k * den + 1) * unitsPerOne ≤ num * unitsPerOne :=
    Nat.mul_le_mul_right _ hlow
  have habove : num * unitsPerOne ≤ m * 2 ^ e * den :=
    calc num * unitsPerOne ≤ (k + 1) * den * unitsPerOne := Nat.mul_le_mul_right _ hhigh
      _ = m * 2 ^ e * den := by rw [Nat.mul_right_comm, hunits]
  have hnear : 2 * (m * 2 ^ e * den) <
      2 * (num * unitsPerOne) + den * 2 ^ stepExponent num den := by
    have hsplit : (k + 1) * unitsPerOne * den = k * den * unitsPerOne + den * unitsPerOne := by
      ring
    have hscaled : 2 * (den * unitsPerOne) ≤ den * 2 ^ stepExponent num den := by
      rw [Nat.mul_left_comm]
      exact Nat.mul_le_mul_left den hstep
    rw [← hunits, hsplit]
    rw [Nat.succ_mul] at hbelow
    omega
  have hreached := digits_le_roundedUnits hden hm habove hnear
  rw [← hunits, Nat.succ_mul] at hreached
  omega

/-- Above a number of at most 53 binary digits, a quotient is past the middle to the next
double when its part above that number is more than half a step. -/
theorem isPastMiddle_whole_iff {rest shift : Nat} (hshift : k.log2 + shift = 52) :
    IsPastMiddle (k * den + rest) den (k * 2 ^ shift) (1022 + k.log2) ↔
      2 ^ k.log2 * den < 2 ^ 53 * rest ∨
        (2 ^ k.log2 * den = 2 ^ 53 * rest ∧ k * 2 ^ shift % 2 = 1) := by
  have hstep : 0 < 2 ^ (1022 + k.log2) := Nat.two_pow_pos _
  have hlog : 0 < 2 ^ k.log2 := Nat.two_pow_pos _
  have hunits : unitsPerOne = 2 ^ shift * 2 ^ (1022 + k.log2) := by
    rw [unitsPerOne, two_pow_mul_eq (show shift + (1022 + k.log2) = 1074 by omega)]
  have hdigits : 2 ^ 53 = 2 ^ k.log2 * (2 * 2 ^ shift) := by
    rw [Nat.mul_left_comm, two_pow_mul_eq hshift]
  rw [IsPastMiddle, hunits, hdigits]
  generalize 2 ^ (1022 + k.log2) = step at hstep ⊢
  generalize 2 ^ k.log2 = lead at hlog ⊢
  have hleft : (2 * (k * 2 ^ shift) + 1) * (den * step) =
      (2 * (k * den * 2 ^ shift) + den) * step := by
    ring
  have hright : 2 * ((k * den + rest) * (2 ^ shift * step)) =
      (2 * (k * den * 2 ^ shift) + 2 * 2 ^ shift * rest) * step := by
    ring
  rw [hleft, hright, Nat.mul_assoc lead, Nat.mul_lt_mul_right hstep,
    Nat.mul_lt_mul_left hlog, Nat.mul_right_cancel_iff hstep, Nat.mul_left_cancel_iff hlog,
    Nat.add_lt_add_iff_left, Nat.add_left_cancel_iff]

/-- The last of 53 binary digits is odd for odd numbers that have them all. -/
theorem odd_digits_iff {shift : Nat} (hpos : k ≠ 0) (hshift : k.log2 + shift = 52) :
    k * 2 ^ shift % 2 = 1 ↔ 2 ^ 52 ≤ k ∧ k % 2 = 1 := by
  cases shift with
  | zero =>
      have hlead : 2 ^ 52 ≤ k := by
        rw [← hshift]
        exact Nat.log2_self_le hpos
      rw [Nat.pow_zero, Nat.mul_one]
      exact (and_iff_right hlead).symm
  | succ shift =>
      have hfew : k < 2 ^ 52 := (Nat.log2_lt hpos).1 (by omega)
      have heven : k * 2 ^ (shift + 1) = 2 * (k * 2 ^ shift) := by ring
      omega

/-- A quotient above a number with at most 53 binary digits is rounded to more than it when it
clears half a step. -/
theorem lt_roundedUnits_small_iff (hden : 0 < den) (hk : k < 2 ^ 53) (hlow : k * den < num) :
    k * unitsPerOne < roundedUnits num den ↔ ClearsHalfStep num den k := by
  unfold ClearsHalfStep
  split
  case isTrue hzero =>
    rw [hzero, Nat.zero_mul, roundedUnits_pos_iff hden]
  case isFalse hpos =>
    have hlog : k.log2 < 53 := (Nat.log2_lt hpos).2 hk
    obtain ⟨shift, hshift⟩ : ∃ shift, k.log2 + shift = 52 := ⟨52 - k.log2, by omega⟩
    obtain ⟨rest, hrest⟩ := Nat.exists_eq_add_of_le (Nat.le_of_lt hlow)
    have hstepped : IsStepped (k * 2 ^ shift) (1022 + k.log2) := by
      constructor
      · rw [← two_pow_mul_eq (show k.log2 + 1 + shift = 53 by omega)]
        exact Nat.mul_lt_mul_of_pos_right Nat.lt_log2_self (Nat.two_pow_pos shift)
      · intro _
        rw [← two_pow_mul_eq hshift]
        exact Nat.mul_le_mul_right _ (Nat.log2_self_le hpos)
    have hunits : k * unitsPerOne = k * 2 ^ shift * 2 ^ (1022 + k.log2) := by
      rw [unitsPerOne, Nat.mul_assoc,
        two_pow_mul_eq (show shift + (1022 + k.log2) = 1074 by omega)]
    have hdifference : num - k * den = rest := by omega
    rw [hunits, lt_roundedUnits_iff hden hstepped, hdifference, hrest,
      isPastMiddle_whole_iff hshift, odd_digits_iff hpos hshift]
    exact ⟨fun h _ => h, fun h => h hk⟩

/-- The next whole number above a rounded quotient, when that is a finite double. -/
theorem ceilQuotient?_eq_some_iff {n : Nat} :
    ceilQuotient? num den = some n ↔ roundedUnits num den < unitsLimit ∧
      ∀ j, j < n ↔ j * unitsPerOne < roundedUnits num den := by
  unfold ceilQuotient?
  dsimp only
  split
  case isTrue hlimit =>
    rw [Option.some.injEq, and_iff_right hlimit]
    constructor
    · rintro rfl j
      exact lt_ceilUnits_iff
    · intro h
      exact eq_of_forall_lt_iff fun j => lt_ceilUnits_iff.trans (h j).symm
  case isFalse hlimit =>
    exact iff_of_false (by simp) fun h => hlimit h.1

/-- There is no next whole number above a rounded quotient that is no finite double. -/
theorem ceilQuotient?_eq_none_iff (hden : 0 < den) :
    ceilQuotient? num den = none ↔ (2 ^ 1024 - 2 ^ 970) * den ≤ num := by
  rw [← unitsLimit_le_roundedUnits_iff hden]
  unfold ceilQuotient?
  dsimp only
  split
  case isTrue hlimit => exact iff_of_false (by simp) (Nat.not_le.2 hlimit)
  case isFalse hlimit => exact iff_of_true rfl (Nat.not_lt.1 hlimit)

/-- There is no quotient above zero of zero. -/
theorem ceilQuotient?_zero (den : Nat) : ceilQuotient? 0 den = some 0 := by
  have hnone : roundedUnits 0 den = 0 := by
    simp [roundedUnits, roundHalfEven]
  rw [ceilQuotient?_eq_some_iff, hnone]
  exact ⟨unitsLimit_pos, fun j => iff_of_false (Nat.not_lt_zero j) (Nat.not_lt_zero _)⟩

/-- When the next whole number above a rounded quotient is the one above the quotient. -/
theorem ceilQuotient?_exact_iff (hden : 0 < den) (hlow : k * den < num)
    (hhigh : num ≤ (k + 1) * den) :
    ceilQuotient? num den = some (k + 1) ↔
      IsWholeDouble (k + 1) ∧ ClearsHalfStep num den k := by
  have hsome : ceilQuotient? num den = some (k + 1) ↔ roundedUnits num den < unitsLimit ∧
      k * unitsPerOne < roundedUnits num den ∧
      roundedUnits num den ≤ (k + 1) * unitsPerOne := by
    rw [ceilQuotient?_eq_some_iff]
    apply and_congr_right
    intro _
    constructor
    · intro h
      exact ⟨(h k).1 (Nat.lt_succ_self k),
        Nat.not_lt.1 fun hlt => Nat.lt_irrefl _ ((h (k + 1)).2 hlt)⟩
    · rintro ⟨hlt, hle⟩ j
      constructor
      · intro hj
        exact Nat.lt_of_le_of_lt (Nat.mul_le_mul_right _ (Nat.le_of_lt_succ hj)) hlt
      · intro hj
        exact Nat.lt_of_mul_lt_mul_right (Nat.lt_of_lt_of_le hj hle)
  rw [hsome]
  constructor
  · rintro ⟨hlimit, hlt, hle⟩
    rcases Nat.lt_or_ge k (2 ^ 53) with hsmall | hlarge
    · exact ⟨isWholeDouble_succ hsmall, (lt_roundedUnits_small_iff hden hsmall hlow).1 hlt⟩
    · refine ⟨isWholeDouble_of_rounded hden hlarge hlow hlimit hlt hle, ?_⟩
      unfold ClearsHalfStep
      rw [if_neg (by omega)]
      exact fun hsmall => absurd hlarge (Nat.not_le.2 hsmall)
  · rintro ⟨hwhole, hclears⟩
    have hle := hwhole.roundedUnits_le hden hhigh
    refine ⟨Nat.lt_of_le_of_lt hle hwhole.units_lt, ?_, hle⟩
    rcases Nat.lt_or_ge k (2 ^ 53) with hsmall | hlarge
    · exact (lt_roundedUnits_small_iff hden hsmall hlow).2 hclears
    · exact lt_roundedUnits_of_large hden hlarge hlow hhigh hwhole

end Numeric

open Numeric

/-! ## The number of pages -/

/-- The least number of pages of a size that have room for all rows. -/
structure IsPageCount (total size n : Int) : Prop where
  room : total ≤ n * size
  least : ∀ m : Int, total ≤ m * size → n ≤ m

/-- Rounding the quotient does not change the number of pages: there are no rows, or the
number of pages is a double, and the quotient is not rounded down to the number of pages that
are full before the last one. -/
def IsCountedExactly (total size : Nat) : Prop :=
  total = 0 ∨ (IsWholeDouble ((total - 1) / size + 1) ∧
    ClearsHalfStep total size ((total - 1) / size))

section

variable {total size k : Nat}

/-- There is room for all rows on one page more than are full before the last one, and on no
fewer pages. -/
theorem isPageCount_iff (hlow : k * size < total) (hhigh : total ≤ (k + 1) * size) {n : Int} :
    IsPageCount total size n ↔ n = (k + 1 : Nat) := by
  have hfew : ∀ m : Int, (total : Int) ≤ m * size → (k + 1 : Nat) ≤ m := by
    intro m hm
    by_contra hless
    have hproduct : m * size ≤ (k : Int) * size :=
      Int.mul_le_mul_of_nonneg_right (by omega) (Int.natCast_nonneg size)
    have hlow : (k : Int) * size < total := by exact_mod_cast hlow
    omega
  have hroom : (total : Int) ≤ (k + 1 : Nat) * size := by exact_mod_cast hhigh
  constructor
  · intro h
    exact Int.le_antisymm (h.least _ hroom) (hfew n h.room)
  · rintro rfl
    exact ⟨hroom, hfew⟩

/-- No pages have room for no rows. -/
theorem isPageCount_zero (hpos : 0 < size) {n : Int} : IsPageCount 0 size n ↔ n = 0 := by
  have hfew : ∀ m : Int, 0 ≤ m * size → 0 ≤ m :=
    fun m hm => Int.nonneg_of_mul_nonneg_left hm (by omega)
  constructor
  · intro h
    exact Int.le_antisymm (h.least 0 (by simp)) (hfew n h.room)
  · rintro rfl
    exact ⟨by simp, hfew⟩

end

namespace Page

variable {α : Type} {p : Page α} {total size : Nat}

/-- The number of pages of a page that was counted and has room for a row. -/
theorem totalPages_counted (hcount : p.totalCount = total) (hroom : p.pageSize = size)
    (hpos : 0 < size) :
    p.totalPages =
      match ceilQuotient? total size with
      | some n => .ok n
      | none => .error .overflow := by
  have hknown : (p.totalCount < 0 || p.pageSize ≤ 0) = false := by
    simp only [hcount, hroom, Bool.or_eq_false_iff, decide_eq_false_iff_not]
    omega
  rw [totalPages, hknown, hcount, hroom, Int.toNat_natCast, Int.toNat_natCast]
  cases ceilQuotient? total size <;> rfl

/-- The number of pages is right exactly when rounding the quotient does not change it. -/
theorem totalPages_right_iff (hcount : p.totalCount = total) (hroom : p.pageSize = size)
    (hpos : 0 < size) :
    (∃ n, p.totalPages = .ok n ∧ IsPageCount total size n) ↔ IsCountedExactly total size := by
  rw [totalPages_counted hcount hroom hpos]
  rcases Nat.eq_zero_or_pos total with rfl | hsome
  · rw [ceilQuotient?_zero]
    exact iff_of_true ⟨0, rfl, (isPageCount_zero hpos).2 rfl⟩ (.inl rfl)
  · have hsplit := Nat.div_add_mod (total - 1) size
    have hlast := Nat.mod_lt (total - 1) hpos
    rw [IsCountedExactly, or_iff_right (Nat.ne_of_gt hsome)]
    generalize (total - 1) / size = k at hsplit ⊢
    have hlow : k * size < total := by
      rw [Nat.mul_comm]
      omega
    have hhigh : total ≤ (k + 1) * size := by
      rw [Nat.succ_mul, Nat.mul_comm]
      omega
    rw [← ceilQuotient?_exact_iff hpos hlow hhigh]
    simp only [isPageCount_iff hlow hhigh]
    cases ceilQuotient? total size with
    | none => simp
    | some n =>
        constructor
        · rintro ⟨_, ⟨⟩, hn⟩
          rw [Int.ofNat_inj.1 hn]
        · rintro ⟨⟩
          exact ⟨_, rfl, rfl⟩

/-- There is no number of pages exactly when the quotient is not below the middle between the
largest double and the next power of two. -/
theorem totalPages_eq_error_iff (hcount : p.totalCount = total) (hroom : p.pageSize = size)
    (hpos : 0 < size) {failure : Failure} :
    p.totalPages = .error failure ↔
      failure = .overflow ∧ (2 ^ 1024 - 2 ^ 970) * size ≤ total := by
  rw [totalPages_counted hcount hroom hpos, ← ceilQuotient?_eq_none_iff hpos]
  cases ceilQuotient? total size with
  | none => simp [eq_comm]
  | some n => simp

/-- Up to `2 ^ 53` rows are counted exactly, on pages of any size that a double can tell from
nothing. -/
theorem isCountedExactly_of_small (htotal : total ≤ 2 ^ 53)
    (hsize : size < 2 ^ 1075) : IsCountedExactly total size := by
  rcases Nat.eq_zero_or_pos total with hnone | hsome
  · exact .inl hnone
  · have hsplit := Nat.div_add_mod (total - 1) size
    rw [IsCountedExactly, or_iff_right (Nat.ne_of_gt hsome)]
    have hfew : (total - 1) / size < 2 ^ 53 :=
      Nat.lt_of_le_of_lt (Nat.div_le_self _ _) (by omega)
    generalize (total - 1) / size = k at hsplit hfew ⊢
    refine ⟨isWholeDouble_succ hfew, ?_⟩
    unfold ClearsHalfStep
    split
    case isTrue hzero =>
      generalize 2 ^ 1075 = bound at hsize ⊢
      exact Nat.lt_of_lt_of_le hsize (Nat.le_mul_of_pos_right _ hsome)
    case isFalse hone =>
      intro _
      have hlead : 2 ^ k.log2 * size ≤ k * size :=
        Nat.mul_le_mul_right size (Nat.log2_self_le hone)
      have hlow : size * k = k * size := Nat.mul_comm size k
      exact .inl (by omega)

/-- The number of pages is right for up to `2 ^ 53` rows. -/
theorem totalPages_of_small (hcount : p.totalCount = total) (hroom : p.pageSize = size)
    (hpos : 0 < size) (htotal : total ≤ 2 ^ 53) (hsize : size < 2 ^ 1075) :
    ∃ n, p.totalPages = .ok n ∧ IsPageCount total size n :=
  (totalPages_right_iff hcount hroom hpos).2 (isCountedExactly_of_small htotal hsize)

/-- When the number of pages is right, and when there is none.  It is the least number of pages
with room for all rows exactly when rounding the quotient does not change it, and the only
failure is that of a quotient without a finite double. -/
theorem totalPages_exact_iff (hcount : p.totalCount = total) (hroom : p.pageSize = size)
    (hpos : 0 < size) :
    ((∃ n, p.totalPages = .ok n ∧ IsPageCount total size n) ↔ IsCountedExactly total size) ∧
    ∀ failure, p.totalPages = .error failure ↔
      failure = .overflow ∧ (2 ^ 1024 - 2 ^ 970) * size ≤ total :=
  ⟨totalPages_right_iff hcount hroom hpos,
    fun _ => totalPages_eq_error_iff hcount hroom hpos⟩

/-- A page that was counted, without rows. -/
def countedPage (total size : Nat) : Page Value where
  pageNo := 1
  pageSize := size
  orderBy := none
  order := none
  autoCount := true
  result := []
  totalCount := total
  one_le_pageNo := Int.one_pos

/-- A hundred and one rows fill six pages with twenty rows each. -/
theorem totalPages_exact_iff_sixPages :
    ∃ n, (countedPage 101 20).totalPages = .ok n ∧ IsPageCount (101 : Nat) (20 : Nat) n := by
  have hsize : 20 < 2 ^ 1075 := by
    have hpower := Nat.pow_le_pow_right Nat.two_pos (show 5 ≤ 1075 by decide)
    generalize 2 ^ 1075 = bound at hpower ⊢
    omega
  have hexact : IsCountedExactly 101 20 := isCountedExactly_of_small (by decide) hsize
  exact (totalPages_exact_iff rfl rfl (by decide)).1.2 hexact

/-- One row more than `2 ^ 53` needs one page more, but the quotient is rounded down.  So many
rows that they have no finite double are no number of pages at all. -/
theorem totalPages_pastDigits :
    (countedPage (2 ^ 53 + 1) 1).totalPages = .ok (2 ^ 53 : Nat) ∧
      ¬IsPageCount (2 ^ 53 + 1 : Nat) (1 : Nat) (2 ^ 53 : Nat) ∧
      (countedPage (2 ^ 1024) 1).totalPages = .error .overflow := by
  have hrounded : ceilQuotient? (2 ^ 53 + 1) 1 = some (2 ^ 53) := by decide +kernel
  have hnone : ceilQuotient? (2 ^ 1024) 1 = none := by decide +kernel
  refine ⟨?_, ?_, ?_⟩
  · rw [totalPages_counted rfl rfl Nat.one_pos, hrounded]
  · rw [isPageCount_iff (k := 2 ^ 53) (by decide) (by decide)]
    decide
  · rw [totalPages_counted rfl rfl Nat.one_pos, hnone]

end Page

end PagedQuery
