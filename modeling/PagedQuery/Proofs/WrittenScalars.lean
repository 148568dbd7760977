import PagedQuery.Coercion
import PagedQuery.Proofs.Stripping
import PagedQuery.Value.Shown

/-!
# Scalars that are read from their texts

Truth values and whole numbers are written as words and numerals.  The strict readings take
these texts back: a word in any case, and a numeral as long as it has no more digits than a
numeral may have.

Main results:

- Theorem `splitSign_append`: a sign is taken off the text in front of which it stands.
- Theorem `readInt_intText`: a whole number is read from its numeral.
- Theorem `readBool_plain`: a truth value is read from the word that is shown for it.
-/

namespace PagedQuery
namespace Coercion

open Numeric Text

/-! ## Signs -/

/-- A text is its sign, which may be missing, and what follows it. -/
theorem exists_sign (cs : List Char) : ∃ sign ∈ [[], ['+'], ['-']],
    cs = sign ++ (splitSign cs).2 ∧ (splitSign cs).1 = (sign == ['-']) := by
  unfold splitSign
  split
  · exact ⟨['+'], by simp, rfl, rfl⟩
  · exact ⟨['-'], by simp, rfl, rfl⟩
  · exact ⟨[], by simp, rfl, rfl⟩

/-- A sign is taken off a text that starts with no other sign. -/
theorem splitSign_append {sign cs : List Char} (hsign : sign ∈ [[], ['+'], ['-']])
    (hstart : ∀ c ∈ cs.head?, c ≠ '+' ∧ c ≠ '-') :
    splitSign (sign ++ cs) = (sign == ['-'], cs) := by
  simp only [List.mem_cons, List.not_mem_nil, or_false] at hsign
  rcases hsign with rfl | rfl | rfl
  · cases cs with
    | nil => rfl
    | cons c cs =>
        obtain ⟨hplus, hminus⟩ := hstart c rfl
        rw [List.nil_append, splitSign]
        · rfl
        · rintro _ ⟨⟩
          exact hplus rfl
        · rintro _ ⟨⟩
          exact hminus rfl
  · rfl
  · rfl

/-- A number is its absolute value behind its sign. -/
theorem signed_natAbs (n : Int) : signed (decide (n < 0)) n.natAbs = n := by
  rw [signed]
  split
  · rename_i hneg
    have := of_decide_eq_true hneg
    omega
  · rename_i hneg
    have : ¬n < 0 := fun h => hneg (decide_eq_true h)
    omega

/-! ## Numerals -/

/-- A digit is neither blank nor a sign. -/
theorem digit_facts {c : Char} (h : isAsciiDigit c = true) :
    isBlank c = false ∧ c ≠ '+' ∧ c ≠ '-' := by
  rw [isAsciiDigit, Bool.and_eq_true, decide_eq_true_eq, decide_eq_true_eq] at h
  have hlow : 48 ≤ c.toNat := h.1
  have hhigh : c.toNat ≤ 57 := h.2
  refine ⟨?_, ?_, ?_⟩
  · simp only [isBlank, loneBlanks, Bool.or_eq_false_iff, Bool.and_eq_false_iff,
      decide_eq_false_iff_not, List.contains_eq_mem, List.mem_cons, List.not_mem_nil, or_false]
    refine ⟨⟨⟨?_, ?_⟩, ?_⟩, ?_⟩ <;> omega
  · rintro rfl
    exact absurd hlow (by decide)
  · rintro rfl
    exact absurd hlow (by decide)

/-- A numeral consists of digits and a minus sign. -/
theorem digit_or_minus {n : Int} {c : Char} (h : c ∈ intChars n) :
    isAsciiDigit c = true ∨ c = '-' := by
  cases n with
  | ofNat m => exact .inl (decimalDigits_isDigit m c h)
  | negSucc m => exact (List.mem_cons.1 h).symm.imp_left (decimalDigits_isDigit (m + 1) c)

/-- A numeral has no blanks. -/
theorem stripChars_intChars (n : Int) : stripChars (intChars n) = intChars n := by
  apply stripBoth_of_none
  intro c hc
  rcases digit_or_minus hc with hdigit | rfl
  · exact (digit_facts hdigit).1
  · rfl

/-- The sign and the digits of a numeral. -/
theorem splitSign_intChars (n : Int) :
    splitSign (intChars n) = (decide (n < 0), decimalDigits n.natAbs) := by
  cases n with
  | ofNat m =>
      refine splitSign_append List.mem_cons_self fun c hc => ?_
      exact (digit_facts (decimalDigits_isDigit m c (List.mem_of_mem_head? hc))).2
  | negSucc m =>
      have hnegative : decide (Int.negSucc m < 0) = true := decide_eq_true (Int.negSucc_lt_zero m)
      rw [hnegative]
      rfl

/-- A whole number is read from its numeral, unless that has too many digits. -/
theorem readInt_intText {n : Int} (h : (decimalDigits n.natAbs).length ≤ digitLimit) :
    readInt (intText n) = .ok n := by
  have hdigits : (decimalDigits n.natAbs).all isAsciiDigit = true :=
    List.all_eq_true.2 (decimalDigits_isDigit _)
  have hsome : (decimalDigits n.natAbs).isEmpty = false := by
    rw [List.isEmpty_eq_false_iff]
    exact decimalDigits_ne_nil _
  simp only [readInt, intText, String.toList_ofList, stripChars_intChars, splitSign_intChars,
    hdigits, hsome, Bool.not_true, Bool.or_self, Bool.false_eq_true, if_false,
    if_neg (Nat.not_lt.2 h), digitsValue_decimalDigits, signed_natAbs]

/-! ## Words -/

/-- A truth value is read from the word that is shown for it. -/
theorem readBool_plain (b : Bool) : readBool (Value.bool b).plain = .ok b := by
  cases b
  · decide +kernel
  · decide +kernel

end Coercion
end PagedQuery
