import Mathlib.Data.List.Basic
import PagedQuery.Calendar.Reading
import PagedQuery.Proofs.Stripping

/-!
# Dates written and read

A date is written with as many digits for each of its numbers as its format has room for, zeros
in front.  Read again, each piece of the format offers the number that was written as its first
reading, so that no other reading is tried.  The format without a time of day fits the front of
the text only and leaves the time over.  No format has a piece for parts of a second or for an
offset, so only dates without either are read from their texts.

Main results:

- Theorem `paddedChars_succ`: the last digit of a number that is written with a width.
- Theorem `head?_readPieces`: the first readings of the pieces make the first reading of the
  format.
- Theorem `read?_text_iff`: a date is read from its text when it has no parts of a second and
  no offset.
-/

namespace PagedQuery
namespace Calendar

open Numeric Text

/-! ## Numbers with a width -/

/-- The last digit of a number stands behind the others. -/
theorem paddedChars_succ {width : Nat} (hwidth : 1 ≤ width) (n : Nat) :
    paddedChars (width + 1) n = paddedChars width (n / 10) ++ [digitChar (n % 10)] := by
  by_cases hn : n < 10
  · have hzero : n / 10 = 0 := Nat.div_eq_of_lt hn
    have hzeros : List.replicate width '0' = List.replicate (width - 1) '0' ++ ['0'] := by
      rw [← List.replicate_succ', Nat.sub_add_cancel hwidth]
    rw [paddedChars, paddedChars, hzero, Nat.mod_eq_of_lt hn, decimalDigits_of_lt hn,
      decimalDigits_of_lt (by decide : 0 < 10)]
    exact congrArg (· ++ [digitChar n]) hzeros
  · rw [paddedChars, paddedChars, decimalDigits_of_le (Nat.not_lt.1 hn), List.length_append,
      List.length_singleton, Nat.add_sub_add_right, List.append_assoc]

/-- A number below ten fills one place. -/
theorem paddedChars_one {n : Nat} (h : n < 10) : paddedChars 1 n = [digitChar n] := by
  rw [paddedChars, decimalDigits_of_lt h]
  rfl

/-- A number below a hundred fills two places. -/
theorem paddedChars_two {n : Nat} (h : n < 100) :
    paddedChars 2 n = [digitChar (n / 10), digitChar (n % 10)] := by
  rw [paddedChars_succ (by decide), paddedChars_one (by omega)]
  rfl

/-- A number below ten thousand fills four places. -/
theorem paddedChars_four {n : Nat} (h : n < 10000) :
    paddedChars 4 n = [digitChar (n / 10 / 10 / 10), digitChar (n / 10 / 10 % 10),
      digitChar (n / 10 % 10), digitChar (n % 10)] := by
  rw [paddedChars_succ (by decide), paddedChars_succ (by decide), paddedChars_two (by omega)]
  rfl

/-! ## Digits as they are read -/

/-- An ASCII digit is the decimal digit of its number. -/
theorem decimalDigit?_digitChar {d : Nat} (h : d < 10) : decimalDigit? (digitChar d) = some d := by
  have hall : ∀ d < 10, decimalDigit? (digitChar d) = some d := by decide
  exact hall d h

/-- An ASCII digit stands between two others as its number stands between theirs. -/
theorem digitBetween_digitChar {low high d : Nat} (hlow : low < 10) (hhigh : high < 10)
    (hd : d < 10) : digitBetween (digitChar low) (digitChar high) (digitChar d) = true ↔
      low ≤ d ∧ d ≤ high := by
  have hle : ∀ {a b : Nat}, a < 10 → b < 10 → (digitChar a ≤ digitChar b ↔ a ≤ b) := by
    intro a b ha hb
    change (digitChar a).toNat ≤ (digitChar b).toNat ↔ _
    rw [toNat_digitChar ha, toNat_digitChar hb]
    omega
  rw [digitBetween, Bool.and_eq_true, decide_eq_true_eq, decide_eq_true_eq, hle hlow hd,
    hle hd hhigh]

/-- An ASCII digit is a decimal digit. -/
theorem isDecimalDigit_digitChar {d : Nat} (h : d < 10) :
    isDecimalDigit (digitChar d) = true := by
  rw [isDecimalDigit, decimalDigit?_digitChar h]
  rfl

/-- An ASCII digit is no blank. -/
theorem isBlank_digitChar {d : Nat} (h : d < 10) : isBlank (digitChar d) = false := by
  have hall : ∀ d < 10, isBlank (digitChar d) = false := by decide
  exact hall d h

/-! ## First readings of pieces -/

variable {n : Nat} {rest : List Char}

/-- A number of two digits is read when its first digit stands between bounds and its second
one is accepted. -/
theorem head?_twoDigits {low high : Nat} {accept : Char → Bool} (hlow : low < 10)
    (hhigh : high < 10) (hn : n < 100) :
    (twoDigits (digitChar low) (digitChar high) accept (paddedChars 2 n ++ rest)).head? =
      if (low ≤ n / 10 ∧ n / 10 ≤ high) ∧ accept (digitChar (n % 10)) = true then some (n, rest)
      else none := by
  have htens : n / 10 < 10 := by omega
  have hunits : n % 10 < 10 := Nat.mod_lt n (by decide)
  have hbetween := digitBetween_digitChar hlow hhigh htens
  rw [digitBetween] at hbetween
  rw [paddedChars_two hn, List.cons_append, List.cons_append, List.nil_append, twoDigits]
  simp only [Bool.and_eq_true _ (accept _), hbetween]
  split
  · rw [decimalDigit?_digitChar hunits, digitValue_digitChar htens]
    exact congrArg (fun m => some (m, rest)) (Nat.div_add_mod n 10)
  · rfl

/-- A number of two digits is read when both of them stand between bounds. -/
theorem head?_twoDigits_between {low high low' high' : Nat} (hlow : low < 10) (hhigh : high < 10)
    (hlow' : low' < 10) (hhigh' : high' < 10) (hn : n < 100) :
    (twoDigits (digitChar low) (digitChar high)
        (digitBetween (digitChar low') (digitChar high')) (paddedChars 2 n ++ rest)).head? =
      if (low ≤ n / 10 ∧ n / 10 ≤ high) ∧ low' ≤ n % 10 ∧ n % 10 ≤ high' then some (n, rest)
      else none := by
  rw [head?_twoDigits hlow hhigh hn]
  exact if_congr (and_congr_right' (digitBetween_digitChar hlow' hhigh' (by omega))) rfl rfl

/-- A number of two digits is read when its first digit stands between bounds. -/
theorem head?_twoDigits_any {low high : Nat} (hlow : low < 10) (hhigh : high < 10)
    (hn : n < 100) :
    (twoDigits (digitChar low) (digitChar high) isDecimalDigit
        (paddedChars 2 n ++ rest)).head? =
      if low ≤ n / 10 ∧ n / 10 ≤ high then some (n, rest) else none := by
  rw [head?_twoDigits hlow hhigh hn]
  exact if_congr (and_iff_left (isDecimalDigit_digitChar (by omega))) rfl rfl

/-- A reading that is there is taken; without it, the next one decides. -/
theorem or_of_ite {α : Type} {c : Prop} [Decidable c] {x : α} {y : Option α}
    (h : ¬c → y = some x) : (if c then some x else none).or y = some x := by
  split
  · rfl
  · rename_i hnot
    exact h hnot

/-- A month is read first as it was written. -/
theorem month_readings (hlow : 1 ≤ n) (hhigh : n ≤ 12) :
    (Piece.month.readings (paddedChars 2 n ++ rest)).head? = some (n, rest) := by
  change (twoDigits (digitChar 1) (digitChar 1) (digitBetween (digitChar 0) (digitChar 2)) _ ++
    twoDigits (digitChar 0) (digitChar 0) (digitBetween (digitChar 1) (digitChar 9)) _ ++
    _).head? = _
  rw [List.head?_append, List.head?_append, Option.or_assoc,
    head?_twoDigits_between (by decide) (by decide) (by decide) (by decide) (by omega),
    head?_twoDigits_between (by decide) (by decide) (by decide) (by decide) (by omega)]
  exact or_of_ite fun _ => or_of_ite fun _ => by omega

/-- A day is read first as it was written. -/
theorem day_readings (hlow : 1 ≤ n) (hhigh : n ≤ 31) :
    (Piece.day.readings (paddedChars 2 n ++ rest)).head? = some (n, rest) := by
  change (twoDigits (digitChar 3) (digitChar 3) (digitBetween (digitChar 0) (digitChar 1)) _ ++
    twoDigits (digitChar 1) (digitChar 2) isDecimalDigit _ ++
    twoDigits (digitChar 0) (digitChar 0) (digitBetween (digitChar 1) (digitChar 9)) _ ++
    _ ++ _).head? = _
  simp only [List.head?_append, Option.or_assoc]
  rw [head?_twoDigits_between (by decide) (by decide) (by decide) (by decide) (by omega),
    head?_twoDigits_any (by decide) (by decide) (by omega),
    head?_twoDigits_between (by decide) (by decide) (by decide) (by decide) (by omega)]
  exact or_of_ite fun _ => or_of_ite fun _ => or_of_ite fun _ => by omega

/-- An hour is read first as it was written. -/
theorem hour_readings (h : n < 24) :
    (Piece.hour.readings (paddedChars 2 n ++ rest)).head? = some (n, rest) := by
  change (twoDigits (digitChar 2) (digitChar 2) (digitBetween (digitChar 0) (digitChar 3)) _ ++
    twoDigits (digitChar 0) (digitChar 1) isDecimalDigit _ ++ _).head? = _
  rw [List.head?_append, List.head?_append, Option.or_assoc,
    head?_twoDigits_between (by decide) (by decide) (by decide) (by decide) (by omega),
    head?_twoDigits_any (by decide) (by decide) (by omega)]
  exact or_of_ite fun _ => or_of_ite fun _ => by omega

/-- A minute is read first as it was written. -/
theorem minute_readings (h : n < 60) :
    (Piece.minute.readings (paddedChars 2 n ++ rest)).head? = some (n, rest) := by
  change (twoDigits (digitChar 0) (digitChar 5) isDecimalDigit _ ++ _).head? = _
  rw [List.head?_append, head?_twoDigits_any (by decide) (by decide) (by omega)]
  exact or_of_ite fun _ => by omega

/-- A second is read first as it was written. -/
theorem second_readings (h : n < 60) :
    (Piece.second.readings (paddedChars 2 n ++ rest)).head? = some (n, rest) := by
  change (twoDigits (digitChar 6) (digitChar 6) (digitBetween (digitChar 0) (digitChar 1)) _ ++
    twoDigits (digitChar 0) (digitChar 5) isDecimalDigit _ ++ _).head? = _
  rw [List.head?_append, List.head?_append, Option.or_assoc,
    head?_twoDigits_between (by decide) (by decide) (by decide) (by decide) (by omega),
    head?_twoDigits_any (by decide) (by decide) (by omega)]
  exact or_of_ite fun _ => or_of_ite fun _ => by omega

/-- A year is read as it was written. -/
theorem year_readings (h : n < 10000) :
    (Piece.year.readings (paddedChars 4 n ++ rest)).head? = some (n, rest) := by
  rw [Piece.readings, paddedChars_four h, List.cons_append, List.cons_append, List.cons_append,
    List.cons_append, List.nil_append, fourDigits]
  simp only [decimalDigit?_digitChar (show n / 10 / 10 / 10 < 10 by omega),
    decimalDigit?_digitChar (show n / 10 / 10 % 10 < 10 by omega),
    decimalDigit?_digitChar (show n / 10 % 10 < 10 by omega),
    decimalDigit?_digitChar (show n % 10 < 10 by omega), List.head?_cons]
  refine congrArg (fun m => some (m, rest)) ?_
  omega

/-- A mark is passed over. -/
theorem mark_readings (c : Char) (rest : List Char) :
    ((Piece.mark c).readings (c :: rest)).head? = some (0, rest) := by
  rw [Piece.readings, beq_self_eq_true, if_pos rfl]
  rfl

/-- A gap of one space ends where a digit follows. -/
theorem gap_readings (hn : n < 100) :
    (Piece.gap.readings (' ' :: (paddedChars 2 n ++ rest))).head? =
      some (0, paddedChars 2 n ++ rest) := by
  have hdigit : gaps (paddedChars 2 n ++ rest) = [] := by
    rw [paddedChars_two hn, List.cons_append, gaps, isBlank_digitChar (by omega)]
    rfl
  rw [Piece.readings, gaps, if_pos (by decide), hdigit]
  rfl

/-! ## First readings of formats -/

/-- The first reading of a format begins with the first reading of its first piece. -/
theorem head?_readPieces {piece : Piece} {pieces : List Piece} {d : DateTime} {cs : List Char}
    {x : DateTime × List Char} (hfirst : (piece.readings cs).head? = some (n, rest))
    (hrest : (readPieces pieces (piece.enter n d) rest).head? = some x) :
    (readPieces (piece :: pieces) d cs).head? = some x := by
  obtain ⟨more, hmore⟩ := List.head?_eq_some_iff.1 hfirst
  rw [readPieces, hmore, List.flatMap_cons, List.head?_append, hrest]
  rfl

/-- The day that a date is written with is read by a format that starts with a day. -/
theorem head?_readDay {d e : DateTime} (h : d.isValid = true) {pieces : List Piece}
    {x : DateTime × List Char} (hrest : (readPieces pieces
      { e with year := d.year, month := d.month, day := d.day } rest).head? = some x) :
    (readPieces (dateFormat ++ pieces) e (paddedChars 4 d.year ++ '-' :: (paddedChars 2 d.month ++
      '-' :: (paddedChars 2 d.day ++ rest)))).head? = some x := by
  have hdays := daysInMonth_le d.year d.month
  simp only [DateTime.isValid, Bool.and_eq_true, decide_eq_true_eq] at h
  apply head?_readPieces (year_readings (by omega))
  apply head?_readPieces (mark_readings '-' _)
  apply head?_readPieces (month_readings (by omega) (by omega))
  apply head?_readPieces (mark_readings '-' _)
  exact head?_readPieces (day_readings (by omega) (by omega)) hrest

/-- The time of day that a date is written with is read behind a gap. -/
theorem head?_readTime {d e : DateTime} (h : d.isValid = true) :
    (readPieces [.gap, .hour, .mark ':', .minute, .mark ':', .second] e
      (' ' :: (paddedChars 2 d.hour ++ ':' :: (paddedChars 2 d.minute ++
        ':' :: paddedChars 2 d.second)))).head? =
      some ({ e with hour := d.hour, minute := d.minute, second := d.second }, []) := by
  simp only [DateTime.isValid, Bool.and_eq_true, decide_eq_true_eq] at h
  apply head?_readPieces (gap_readings (by omega))
  apply head?_readPieces (hour_readings (by omega))
  apply head?_readPieces (mark_readings ':' _)
  apply head?_readPieces (minute_readings (by omega))
  apply head?_readPieces (mark_readings ':' _)
  rw [← List.append_nil (paddedChars 2 d.second)]
  exact head?_readPieces (second_readings (by omega)) rfl

/-- The characters of a date, from the front. -/
theorem chars_eq (d : DateTime) : d.chars [' '] =
    paddedChars 4 d.year ++ '-' :: (paddedChars 2 d.month ++ '-' :: (paddedChars 2 d.day ++
      ' ' :: (paddedChars 2 d.hour ++ ':' :: (paddedChars 2 d.minute ++
        ':' :: paddedChars 2 d.second)))) := by
  simp [DateTime.chars]

/-- A text that is written with digits at both ends is not changed by stripping. -/
theorem stripChars_chars {d : DateTime} (h : d.isValid = true) :
    stripChars (d.chars [' ']) = d.chars [' '] := by
  simp only [DateTime.isValid, Bool.and_eq_true, decide_eq_true_eq] at h
  refine stripBoth_eq_iff.2 ⟨[], [], by simp, List.forall_mem_nil _, List.forall_mem_nil _, ?_, ?_⟩
  · rw [chars_eq, paddedChars_four (by omega)]
    rintro _ ⟨⟩
    exact isBlank_digitChar (by omega)
  · rw [DateTime.chars, paddedChars_two (show d.second < 100 by omega),
      List.getLast?_append_of_ne_nil _ (List.cons_ne_nil _ _)]
    rintro _ ⟨⟩
    exact isBlank_digitChar (by omega)

/-- The date has no parts of a second, and it does not know its offset. -/
structure DateTime.IsPlain (d : DateTime) : Prop where
  microsecond : d.microsecond = 0
  offset : d.offset = none

/-- Pieces of a format leave a plain date plain. -/
theorem readPieces_isPlain {pieces : List Piece} {d : DateTime} (h : d.IsPlain)
    {cs : List Char} {x : DateTime × List Char} (hx : x ∈ readPieces pieces d cs) :
    x.1.IsPlain := by
  induction pieces generalizing d cs with
  | nil =>
      rw [readPieces, List.mem_singleton] at hx
      exact hx ▸ h
  | cons piece pieces ih =>
      rw [readPieces] at hx
      obtain ⟨r, -, hx⟩ := List.mem_flatMap.1 hx
      refine ih ?_ hx
      cases piece <;> exact ⟨h.microsecond, h.offset⟩

/-- A date that is read is plain. -/
theorem read?_isPlain {cs : List Char} {d : DateTime} (h : read? cs = some d) : d.IsPlain := by
  have hformat : ∀ {format : List Piece}, readBy? format cs = some d → d.IsPlain := by
    intro format hread
    unfold readBy? at hread
    split at hread
    · rename_i e hhead
      split at hread
      · cases hread
        exact readPieces_isPlain (d := firstMidnight) ⟨rfl, rfl⟩ (List.mem_of_mem_head? hhead)
      · cases hread
    · cases hread
  unfold read? at h
  split at h
  · rename_i e hday
    cases h
    exact hformat hday
  · exact hformat h

/-- The text of a plain date ends with its second. -/
theorem DateTime.IsPlain.text {d : DateTime} (h : d.IsPlain) :
    d.text = .ofList (d.chars [' ']) := by
  rw [DateTime.text, h.microsecond, h.offset]
  simp [fractionChars]

/-- A plain date is read from its text. -/
theorem read?_text {d : DateTime} (h : d.isValid = true) (hplain : d.IsPlain) :
    read? (stripChars d.text.toList) = some d := by
  have hday : readBy? dateFormat (d.chars [' ']) = none := by
    have hfirst : (readPieces (dateFormat ++ []) firstMidnight (d.chars [' '])).head? =
        some ({ firstMidnight with year := d.year, month := d.month, day := d.day },
          ' ' :: (paddedChars 2 d.hour ++
            ':' :: (paddedChars 2 d.minute ++ ':' :: paddedChars 2 d.second))) := by
      rw [chars_eq]
      exact head?_readDay h rfl
    rw [List.append_nil] at hfirst
    rw [readBy?, hfirst]
  have htime : readBy? dateTimeFormat (d.chars [' ']) = some d := by
    have hfirst := head?_readDay (e := firstMidnight) h (head?_readTime h)
    rw [← chars_eq] at hfirst
    rw [readBy?, dateTimeFormat, hfirst]
    have hsame : { firstMidnight with
        year := d.year, month := d.month, day := d.day, hour := d.hour, minute := d.minute,
        second := d.second } = d := by
      rw [DateTime.mk.injEq]
      exact ⟨rfl, rfl, rfl, rfl, rfl, rfl, hplain.microsecond.symm, hplain.offset.symm⟩
    simp only [hsame, h, if_true]
  rw [hplain.text, String.toList_ofList, stripChars_chars h, read?, hday]
  exact htime

/-- A date is read from its text exactly when it is plain. -/
theorem read?_text_iff {d : DateTime} (h : d.isValid = true) :
    read? (stripChars d.text.toList) = some d ↔ d.IsPlain :=
  ⟨read?_isPlain, read?_text h⟩

end Calendar
end PagedQuery
