import PagedQuery.Numeric.Numeral

/-!
# Dates with a time of day

A date of the Gregorian calendar, with years from 1 to 9999, together with a
time of day to the microsecond.  A date may know by how much its clock is ahead
of universal time.  Two dates can be compared when both of them know that, or
neither does, and then their instants are compared.

Main results:

- Theorem `dayNumber_lt_of_year` and Theorem `dayNumber_lt_of_month`: the days
  of the calendar are numbered in their order.
- Theorem `eq_of_instant_eq`: two valid dates with the same offset and the same
  instant are equal, so instants order all valid dates of one clock.
-/

namespace PagedQuery
namespace Calendar

open Numeric

/-- A date and a time of day. -/
structure DateTime where
  year : Nat
  month : Nat
  day : Nat
  hour : Nat
  minute : Nat
  second : Nat
  microsecond : Nat := 0
  /-- The microseconds by which the clock is ahead of universal time, if known. -/
  offset : Option Int := none
  deriving DecidableEq, Repr

/-- The year has a 29th of February. -/
def isLeapYear (year : Nat) : Bool :=
  year % 4 == 0 && (year % 100 != 0 || year % 400 == 0)

/-- The number of days of a month. -/
def daysInMonth (year month : Nat) : Nat :=
  match month with
  | 2 => if isLeapYear year then 29 else 28
  | 4 | 6 | 9 | 11 => 30
  | _ => 31

/-- The number of days of all years before a year. -/
def daysBeforeYear (year : Nat) : Nat :=
  365 * (year - 1) + (year - 1) / 4 - (year - 1) / 100 + (year - 1) / 400

/-- The number of days of a year before a month. -/
def daysBeforeMonth (year : Nat) : Nat → Nat
  | 0 | 1 => 0
  | month + 2 => daysBeforeMonth year (month + 1) + daysInMonth year (month + 1)

/-- The microseconds of a day. -/
def microsecondsPerDay : Nat := 24 * 60 * 60 * 1000000

/-- A number of microseconds behind a point, if there are any. -/
def fractionChars (microseconds : Nat) : List Char :=
  if microseconds == 0 then [] else '.' :: paddedChars 6 microseconds

/-- An offset with its sign; its seconds are left out when there are none. -/
def offsetChars (offset : Int) : List Char :=
  let minutes := offset.natAbs / 60000000
  let rest := offset.natAbs % 60000000
  (if offset < 0 then '-' else '+') :: paddedChars 2 (minutes / 60) ++
    ':' :: paddedChars 2 (minutes % 60) ++
    (if rest == 0 then []
      else ':' :: paddedChars 2 (rest / 1000000) ++ fractionChars (rest % 1000000))

namespace DateTime

/-- The date exists in the calendar and the time exists on the clock, which is
less than a day ahead of universal time or behind it. -/
def isValid (d : DateTime) : Bool :=
  1 ≤ d.year && d.year ≤ 9999 && 1 ≤ d.month && d.month ≤ 12 && 1 ≤ d.day &&
    d.day ≤ daysInMonth d.year d.month && d.hour < 24 && d.minute < 60 && d.second < 60 &&
    d.microsecond < 1000000 && d.offset.all (·.natAbs < microsecondsPerDay)

/-- The number of the day, the first day of the calendar being 1. -/
def dayNumber (d : DateTime) : Nat :=
  daysBeforeYear d.year + daysBeforeMonth d.year d.month + d.day

/-- The microseconds of the clock since a fixed day, or those of universal time
when it is known how far that is. -/
def instant (d : DateTime) : Int :=
  ((((d.dayNumber * 24 + d.hour) * 60 + d.minute) * 60 + d.second) * 1000000 +
    d.microsecond : Nat) - d.offset.getD 0

/-- Both dates know their offset, or neither does. -/
def isComparable (d e : DateTime) : Bool := d.offset.isSome == e.offset.isSome

/-- Two dates are equal: they can be compared and are the same instant. -/
def agree (d e : DateTime) : Bool := d.isComparable e && d.instant == e.instant

/-- Date and time of day to the second, with given characters in between. -/
def chars (d : DateTime) (between : List Char) : List Char :=
  paddedChars 4 d.year ++ '-' :: paddedChars 2 d.month ++ '-' :: paddedChars 2 d.day ++
    between ++ paddedChars 2 d.hour ++ ':' :: paddedChars 2 d.minute ++
    ':' :: paddedChars 2 d.second

/-- The date as text, date and time separated by a space. -/
def text (d : DateTime) : String :=
  .ofList (d.chars [' '] ++ fractionChars d.microsecond ++
    (d.offset.map offsetChars).getD [])

/-- The date as text with six places behind the second, whatever its offset. -/
def clockText (d : DateTime) : String :=
  .ofList (d.chars [' '] ++ '.' :: paddedChars 6 d.microsecond)

end DateTime

/-! ## Numbers of days -/

theorem daysInMonth_le (year month : Nat) : daysInMonth year month ≤ 31 := by
  unfold daysInMonth
  split
  · split <;> omega
  · omega
  · omega
  · omega
  · omega
  · omega

theorem daysBeforeMonth_succ (year : Nat) {month : Nat} (h : 1 ≤ month) :
    daysBeforeMonth year (month + 1) = daysBeforeMonth year month + daysInMonth year month := by
  obtain ⟨before, rfl⟩ : ∃ before, month = before + 1 := ⟨month - 1, by omega⟩
  rfl

/-- A month ends before every later one begins. -/
theorem daysBeforeMonth_add_le (year : Nat) {month later : Nat} (h : 1 ≤ month)
    (hlater : month < later) :
    daysBeforeMonth year month + daysInMonth year month ≤ daysBeforeMonth year later := by
  obtain ⟨between, rfl⟩ : ∃ between, later = month + 1 + between :=
    ⟨later - (month + 1), by omega⟩
  rw [← daysBeforeMonth_succ year h]
  clear hlater
  induction between with
  | zero => exact Nat.le_refl _
  | succ between ih =>
      have hnext := daysBeforeMonth_succ year (show 1 ≤ month + 1 + between by omega)
      rw [← Nat.add_assoc, hnext]
      exact Nat.le_trans ih (Nat.le_add_right _ _)

/-- The days of a year. -/
theorem daysBeforeMonth_thirteen (year : Nat) :
    daysBeforeMonth year 13 = if isLeapYear year then 366 else 365 := by
  cases hleap : isLeapYear year <;> simp [daysBeforeMonth, daysInMonth, hleap]

/-- A year is over after its twelfth month. -/
theorem daysBeforeYear_succ {year : Nat} (h : 1 ≤ year) :
    daysBeforeYear (year + 1) = daysBeforeYear year + daysBeforeMonth year 13 := by
  obtain ⟨past, rfl⟩ : ∃ past, year = past + 1 := ⟨year - 1, by omega⟩
  have hleap : isLeapYear (past + 1) = true ↔
      (past + 1) % 4 = 0 ∧ ((past + 1) % 100 ≠ 0 ∨ (past + 1) % 400 = 0) := by
    simp [isLeapYear]
  have hnext : daysBeforeYear (past + 1 + 1) =
      365 * (past + 1) + (past + 1) / 4 - (past + 1) / 100 + (past + 1) / 400 := rfl
  have hthis : daysBeforeYear (past + 1) =
      365 * past + past / 4 - past / 100 + past / 400 := rfl
  rw [daysBeforeMonth_thirteen, hnext, hthis]
  simp only [hleap]
  split <;> omega

/-- A year ends before every later one begins. -/
theorem daysBeforeYear_add_le {year later : Nat} (h : 1 ≤ year) (hlater : year < later) :
    daysBeforeYear year + daysBeforeMonth year 13 ≤ daysBeforeYear later := by
  obtain ⟨between, rfl⟩ : ∃ between, later = year + 1 + between :=
    ⟨later - (year + 1), by omega⟩
  rw [← daysBeforeYear_succ h]
  clear hlater
  induction between with
  | zero => exact Nat.le_refl _
  | succ between ih =>
      have hnext := daysBeforeYear_succ (show 1 ≤ year + 1 + between by omega)
      rw [← Nat.add_assoc, hnext]
      exact Nat.le_trans ih (Nat.le_add_right _ _)

namespace DateTime

variable {d e : DateTime}

/-- The bounds of the parts of a valid date. -/
theorem isValid_iff : d.isValid = true ↔
    (1 ≤ d.year ∧ d.year ≤ 9999) ∧ (1 ≤ d.month ∧ d.month ≤ 12) ∧
      (1 ≤ d.day ∧ d.day ≤ daysInMonth d.year d.month) ∧ d.hour < 24 ∧ d.minute < 60 ∧
      d.second < 60 ∧ d.microsecond < 1000000 ∧
      d.offset.all (·.natAbs < microsecondsPerDay) = true := by
  simp only [isValid, Bool.and_eq_true, decide_eq_true_eq, and_assoc]

/-- The days of a year come before those of every later one. -/
theorem dayNumber_lt_of_year (hd : d.isValid = true) (he : e.isValid = true)
    (h : d.year < e.year) : d.dayNumber < e.dayNumber := by
  obtain ⟨⟨hyear, -⟩, ⟨hmonth, hmonths⟩, ⟨-, hdays⟩, -⟩ := isValid_iff.1 hd
  obtain ⟨-, -, ⟨hday, -⟩, -⟩ := isValid_iff.1 he
  have hend := daysBeforeMonth_add_le d.year hmonth (show d.month < 13 by omega)
  have hover := daysBeforeYear_add_le hyear h
  unfold dayNumber
  omega

/-- The days of a month come before those of every later one of the same year. -/
theorem dayNumber_lt_of_month (hd : d.isValid = true) (he : e.isValid = true)
    (hyear : d.year = e.year) (h : d.month < e.month) : d.dayNumber < e.dayNumber := by
  obtain ⟨-, ⟨hmonth, -⟩, ⟨-, hdays⟩, -⟩ := isValid_iff.1 hd
  obtain ⟨-, -, ⟨hday, -⟩, -⟩ := isValid_iff.1 he
  have hend := daysBeforeMonth_add_le d.year hmonth h
  unfold dayNumber
  rw [← hyear]
  omega

/-- A day of the calendar is told by its number. -/
theorem day_eq_of_dayNumber_eq (hd : d.isValid = true) (he : e.isValid = true)
    (h : d.dayNumber = e.dayNumber) : d.year = e.year ∧ d.month = e.month ∧ d.day = e.day := by
  have hyear : d.year = e.year := by
    rcases Nat.lt_trichotomy d.year e.year with hlt | heq | hlt
    · exact absurd h (Nat.ne_of_lt (dayNumber_lt_of_year hd he hlt))
    · exact heq
    · exact absurd h.symm (Nat.ne_of_lt (dayNumber_lt_of_year he hd hlt))
  have hmonth : d.month = e.month := by
    rcases Nat.lt_trichotomy d.month e.month with hlt | heq | hlt
    · exact absurd h (Nat.ne_of_lt (dayNumber_lt_of_month hd he hyear hlt))
    · exact heq
    · exact absurd h.symm (Nat.ne_of_lt (dayNumber_lt_of_month he hd hyear.symm hlt))
  unfold dayNumber at h
  rw [hyear, hmonth] at h
  exact ⟨hyear, hmonth, by omega⟩

theorem eq_of_instant_eq (hd : d.isValid = true) (he : e.isValid = true)
    (hoffset : d.offset = e.offset) (h : d.instant = e.instant) : d = e := by
  obtain ⟨-, -, -, hhour, hminute, hsecond, hmicrosecond, -⟩ := isValid_iff.1 hd
  obtain ⟨-, -, -, hhour', hminute', hsecond', hmicrosecond', -⟩ := isValid_iff.1 he
  unfold instant at h
  rw [hoffset] at h
  have hday : d.dayNumber = e.dayNumber := by omega
  obtain ⟨hyear, hmonth, hdayofmonth⟩ := day_eq_of_dayNumber_eq hd he hday
  have htime : d.hour = e.hour ∧ d.minute = e.minute ∧ d.second = e.second ∧
      d.microsecond = e.microsecond := by omega
  obtain ⟨hhours, hminutes, hseconds, hmicroseconds⟩ := htime
  cases d
  cases e
  simp only [DateTime.mk.injEq]
  exact ⟨hyear, hmonth, hdayofmonth, hhours, hminutes, hseconds, hmicroseconds, hoffset⟩

/-- Dates that are the same instant as the same date are the same instant. -/
theorem agree_trans {f : DateTime} (h : d.agree e = true) (h' : e.agree f = true) :
    d.agree f = true := by
  simp only [agree, isComparable, Bool.and_eq_true, beq_iff_eq] at h h' ⊢
  exact ⟨h.1.trans h'.1, h.2.trans h'.2⟩

theorem agree_comm (d e : DateTime) : d.agree e = e.agree d := by
  rw [Bool.eq_iff_iff]
  simp only [agree, isComparable, Bool.and_eq_true, beq_iff_eq]
  exact and_congr eq_comm eq_comm

theorem agree_self (d : DateTime) : d.agree d = true := by
  simp [agree, isComparable]

end DateTime

end Calendar
end PagedQuery
