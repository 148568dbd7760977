import Mathlib.Data.List.Basic
import Mathlib.Tactic.Tauto
import PagedQuery.Collection.Backend
import PagedQuery.Proofs.PageRuns
import PagedQuery.Proofs.WrittenScalars

/-!
# Reports of counts by text

A count of a query text ends with a number, or with the report of its count text, which carries
the failure that the backend has met.  The answer of the backend is made a whole number only
after that, so that an answer that is no number makes the count end with a failure of its own.

Main results:

- Theorem `readAnswerNumeral_eq_ok_iff`: the texts that are numerals of an answer.
- Theorem `countsAs_or_refused`: the values that are made a whole number, and how the others
  fail.
- Theorem `countByQuery_reported_iff`: when a count of a query text ends with a number or with
  its report.
-/

namespace PagedQuery

open Coercion Numeric Text

/-! ## Numerals in answers -/

/-- Digits of any script with single low lines between them, and the numbers that they stand
for. -/
inductive Grouped : List Char → List Nat → Prop
  | last {c : Char} {d : Nat} (hdigit : decimalDigit? c = some d) : Grouped [c] [d]
  | digit {c : Char} {d : Nat} {cs : List Char} {ds : List Nat}
      (hdigit : decimalDigit? c = some d) (hrest : Grouped cs ds) : Grouped (c :: cs) (d :: ds)
  | lined {c : Char} {d : Nat} {cs : List Char} {ds : List Nat}
      (hdigit : decimalDigit? c = some d) (hrest : Grouped cs ds) :
      Grouped (c :: '_' :: cs) (d :: ds)

/-- A text is the numeral of a whole number: blanks may stand around it, a sign in front of its
digits, and single low lines between them. -/
def IsNumeral (s : String) (n : Int) : Prop :=
  ∃ front back sign digits values, s.toList = front ++ (sign ++ digits) ++ back ∧
    (∀ c ∈ front, isNumeralBlank c = true) ∧ (∀ c ∈ back, isNumeralBlank c = true) ∧
    sign ∈ [[], ['+'], ['-']] ∧ Grouped digits values ∧ values.length ≤ digitLimit ∧
    n = signed (sign == ['-']) (values.foldl (fun n d => 10 * n + d) 0)

/-- What may follow a digit: nothing, more digits, or a low line and more digits. -/
inductive Continues : List Char → List Nat → Prop
  | done : Continues [] []
  | digits {cs : List Char} {ds : List Nat} (h : Grouped cs ds) : Continues cs ds
  | line {cs : List Char} {ds : List Nat} (h : Grouped cs ds) : Continues ('_' :: cs) ds

/-- A digit and what follows it. -/
theorem grouped_cons_iff {c : Char} {cs : List Char} {values : List Nat} :
    Grouped (c :: cs) values ↔
      ∃ d ds, decimalDigit? c = some d ∧ Continues cs ds ∧ values = d :: ds := by
  constructor
  · intro h
    cases h with
    | last hdigit => exact ⟨_, _, hdigit, .done, rfl⟩
    | digit hdigit hrest => exact ⟨_, _, hdigit, .digits hrest, rfl⟩
    | lined hdigit hrest => exact ⟨_, _, hdigit, .line hrest, rfl⟩
  · rintro ⟨d, ds, hdigit, hrest, rfl⟩
    cases hrest with
    | done => exact .last hdigit
    | digits h => exact .digit hdigit h
    | line h => exact .lined hdigit h

/-- The scan takes all characters exactly when they are grouped digits, or may follow one where
a digit has just been read. -/
theorem scanDigits_eq_iff {cs : List Char} {values : List Nat} :
    (scanDigits false cs = .digits values [] ↔ Grouped cs values) ∧
      (scanDigits true cs = .digits values [] ↔ Continues cs values) := by
  induction cs generalizing values with
  | nil =>
      constructor
      · exact iff_of_false (by simp [scanDigits]) nofun
      · constructor
        · intro h
          cases h
          exact .done
        · rintro (_ | ⟨⟨⟩⟩)
          rfl
  | cons c cs ih =>
      cases hdigit : decimalDigit? c with
      | some d =>
          -- A digit is scanned alike, whatever has been read before it.
          have hscan : ∀ after, scanDigits after (c :: cs) = .digits values [] ↔
              Grouped (c :: cs) values := by
            intro after
            rw [grouped_cons_iff, scanDigits, hdigit]
            cases hrest : scanDigits true cs with
            | stray =>
                refine iff_of_false (by simp) ?_
                rintro ⟨_, ds, -, hds, -⟩
                rw [← ih.2, hrest] at hds
                cases hds
            | digits ds rest =>
                constructor
                · intro h
                  cases h
                  exact ⟨d, ds, rfl, ih.2.1 hrest, rfl⟩
                · rintro ⟨_, _, ⟨⟩, hds, rfl⟩
                  rw [← ih.2, hrest] at hds
                  cases hds
                  rfl
          refine ⟨hscan false, (hscan true).trans ⟨.digits, ?_⟩⟩
          rintro (_ | h | _)
          · exact h
          · cases hdigit.symm.trans (show decimalDigit? '_' = none by decide)
      | none =>
          have hnot : ¬Grouped (c :: cs) values := by
            rw [grouped_cons_iff]
            rintro ⟨d, -, hd, -⟩
            cases hdigit.symm.trans hd
          refine ⟨iff_of_false (by simp [scanDigits, hdigit]) hnot, ?_⟩
          by_cases hline : c = '_'
          · subst hline
            rw [scanDigits, hdigit]
            refine ih.1.trans ⟨.line, ?_⟩
            rintro (_ | h | h)
            · exact absurd h hnot
            · exact h
          · refine iff_of_false (by simp [scanDigits, hdigit, hline]) ?_
            rintro (_ | h | _)
            · exact hnot h
            · exact hline rfl

/-- A digit of any script is no blank. -/
theorem isNumeralBlank_of_digit {c : Char} {d : Nat} (h : decimalDigit? c = some d) :
    isNumeralBlank c = false := by
  -- No blank stands among the ten code points of any script.
  have happart : ∀ z ∈ digitZeros, ∀ i ≤ 9, 0x20 ≠ z + i ∧ ¬(0x09 ≤ z + i ∧ z + i ≤ 0x0D) ∧
      ¬(0x1C ≤ z + i ∧ z + i ≤ 0x1F) ∧ ¬(0x2000 ≤ z + i ∧ z + i ≤ 0x200A) ∧
      z + i ∉ loneBlanks := by decide
  unfold decimalDigit? at h
  split at h
  · rename_i z hz
    have hwithin := List.find?_some hz
    rw [Bool.and_eq_true, decide_eq_true_eq, decide_eq_true_eq] at hwithin
    obtain ⟨i, hi⟩ := Nat.exists_eq_add_of_le hwithin.1
    have hplace := happart z (List.mem_of_find?_eq_some hz) i (by omega)
    rw [← hi] at hplace
    obtain ⟨hspace, hcontrol, hseparator, hwide, hlone⟩ := hplace
    have hne : c ≠ ' ' := by
      rintro rfl
      exact hspace rfl
    rw [Bool.eq_false_iff]
    simp only [isNumeralBlank, isAsciiSpace, isBlank, ne_eq, Bool.or_eq_true, Bool.and_eq_true,
      decide_eq_true_eq, beq_iff_eq, List.contains_iff_mem]
    tauto
  · cases h

/-- Grouped digits start and end with a digit. -/
theorem Grouped.ends {cs : List Char} {values : List Nat} (h : Grouped cs values) :
    (∀ c ∈ cs.head?, ∃ d, decimalDigit? c = some d) ∧
      ∀ c ∈ cs.getLast?, ∃ d, decimalDigit? c = some d := by
  induction h with
  | last hdigit => exact ⟨by simpa using ⟨_, hdigit⟩, by simpa using ⟨_, hdigit⟩⟩
  | digit hdigit hrest ih =>
      refine ⟨by simpa using ⟨_, hdigit⟩, ?_⟩
      intro e he
      apply ih.2
      cases hrest <;> exact he
  | lined hdigit hrest ih =>
      refine ⟨by simpa using ⟨_, hdigit⟩, ?_⟩
      intro e he
      apply ih.2
      cases hrest <;> exact he

/-- The texts that are read as a whole number are its numerals. -/
theorem readAnswerNumeral_eq_ok_iff {s : String} {n : Int} :
    readAnswerNumeral s = .ok n ↔ IsNumeral s n := by
  constructor
  · intro h
    have hcore : stripBoth isNumeralBlank s.toList = stripBoth isNumeralBlank s.toList := rfl
    obtain ⟨front, back, hsplit, hfront, hback, -⟩ := stripBoth_eq_iff.1 hcore
    obtain ⟨sign, hsign, hbody, hnegative⟩ := exists_sign (stripBoth isNumeralBlank s.toList)
    simp only [readAnswerNumeral] at h
    split at h
    · cases h
    · rename_i values rest hscan
      split at h
      · cases h
      · rename_i hlimit
        split at h
        · cases h
        · rename_i hrest
          obtain rfl : rest = [] := by simpa using hrest
          rw [hnegative, Except.ok.injEq] at h
          exact ⟨front, back, sign, _, values, hbody ▸ hsplit, hfront, hback, hsign,
            scanDigits_eq_iff.1.1 hscan, Nat.not_lt.1 hlimit, h.symm⟩
  · rintro ⟨front, back, sign, digits, values, hsplit, hfront, hback, hsign, hdigits, hlimit,
      rfl⟩
    have hsome : digits ≠ [] := by
      rintro rfl
      cases hdigits
    have hbare : IsBare isNumeralBlank (sign ++ digits) := by
      constructor
      · simp only [List.mem_cons, List.not_mem_nil, or_false] at hsign
        rcases hsign with rfl | rfl | rfl
        · intro c hc
          obtain ⟨d, hd⟩ := hdigits.ends.1 c hc
          exact isNumeralBlank_of_digit hd
        · rintro _ ⟨⟩
          decide
        · rintro _ ⟨⟩
          decide
      · intro c hc
        rw [List.getLast?_append_of_ne_nil _ hsome] at hc
        obtain ⟨d, hd⟩ := hdigits.ends.2 c hc
        exact isNumeralBlank_of_digit hd
    have hstart : ∀ c ∈ digits.head?, c ≠ '+' ∧ c ≠ '-' := by
      intro c hc
      obtain ⟨d, hd⟩ := hdigits.ends.1 c hc
      constructor
      · rintro rfl
        cases hd.symm.trans (show decimalDigit? '+' = none by decide)
      · rintro rfl
        cases hd.symm.trans (show decimalDigit? '-' = none by decide)
    have hstrip := stripBoth_eq_iff.2 ⟨front, back, hsplit, hfront, hback, hbare⟩
    simp only [readAnswerNumeral, hstrip, splitSign_append hsign hstart,
      scanDigits_eq_iff.1.2 hdigits, if_neg (Nat.not_lt.2 hlimit), List.isEmpty_nil,
      Bool.not_true, Bool.false_eq_true, if_false]

/-! ## Answers as numbers -/

/-- A value is made this whole number: nothing counts as zero, a truth value as zero or one, a
double loses its fraction, and a text is a numeral. -/
inductive CountsAs : Value → Int → Prop
  | nothing : CountsAs .null 0
  | truth (b : Bool) : CountsAs (.bool b) (if b then 1 else 0)
  | whole (n : Int) : CountsAs (.int n) n
  | cut (negative : Bool) (units : Nat) :
      CountsAs (.double (.finite negative units)) (signed negative (units / unitsPerOne))
  | numeral {s : String} {n : Int} (h : IsNumeral s n) : CountsAs (.text s) n

/-- The value is of a kind that has no numbers. -/
def hasNoNumber : Value → Bool
  | .date _ | .list _ | .tuple _ | .mapping _ | .object _ _ => true
  | _ => false

/-- How making a value a whole number fails: it is no number, too large a one, a text that is
no numeral, or of a kind that has no numbers. -/
inductive IsNoNumber : Value → Failure → Prop
  | notNumber : IsNoNumber (.double .nan) (.unfit "cannot convert float NaN to integer")
  | tooLarge (negative : Bool) : IsNoNumber (.double (.infinity negative)) .overflow
  | noNumeral {s : String} (message : String) (h : ∀ n, ¬IsNumeral s n) :
      IsNoNumber (.text s) (.unfit message)
  | noNumber {v : Value} (h : hasNoNumber v = true) : IsNoNumber v .mismatch

/-- A value that is made a whole number is not refused. -/
theorem CountsAs.not_isNoNumber {v : Value} {n : Int} (h : CountsAs v n) (failure : Failure) :
    ¬IsNoNumber v failure := by
  intro hno
  cases hno with
  | notNumber => cases h
  | tooLarge _ => cases h
  | noNumeral message hnone =>
      cases h with
      | numeral hnumeral => exact hnone n hnumeral
  | noNumber hkind => cases h <;> cases hkind

/-- Texts that are read as a number are not refused, and the others are for their text. -/
theorem readAnswerNumeral_error (s : String) {failure : Failure}
    (h : readAnswerNumeral s = .error failure) : ∃ message, failure = .unfit message := by
  simp only [readAnswerNumeral] at h
  split at h
  · exact ⟨_, (Except.error.inj h).symm⟩
  · split at h
    · exact ⟨_, (Except.error.inj h).symm⟩
    · split at h
      · exact ⟨_, (Except.error.inj h).symm⟩
      · cases h

/-- An answer is made a whole number, or it is refused. -/
theorem countsAs_or_refused (v : Value) :
    (∃ n, v.toCount = .ok n ∧ CountsAs v n) ∨
      ∃ failure, v.toCount = .error failure ∧ IsNoNumber v failure := by
  cases v with
  | null => exact .inl ⟨0, rfl, .nothing⟩
  | bool b => exact .inl ⟨_, rfl, .truth b⟩
  | int n => exact .inl ⟨n, rfl, .whole n⟩
  | double x =>
      cases x with
      | nan => exact .inr ⟨_, rfl, .notNumber⟩
      | infinity negative => exact .inr ⟨_, rfl, .tooLarge negative⟩
      | finite negative units => exact .inl ⟨_, rfl, .cut negative units⟩
  | text s =>
      cases hread : readAnswerNumeral s with
      | ok n => exact .inl ⟨n, hread, .numeral (readAnswerNumeral_eq_ok_iff.1 hread)⟩
      | error failure =>
          obtain ⟨message, rfl⟩ := readAnswerNumeral_error s hread
          refine .inr ⟨_, hread, .noNumeral message fun n hn => ?_⟩
          cases hread.symm.trans (readAnswerNumeral_eq_ok_iff.2 hn)
  | date d => exact .inr ⟨_, rfl, .noNumber rfl⟩
  | list items => exact .inr ⟨_, rfl, .noNumber rfl⟩
  | tuple items => exact .inr ⟨_, rfl, .noNumber rfl⟩
  | mapping entries => exact .inr ⟨_, rfl, .noNumber rfl⟩
  | object attributes label => exact .inr ⟨_, rfl, .noNumber rfl⟩

/-! ## Counts of a query text -/

/-- The report of a count text: the message names the text, the details hold it, and the cause
is what went wrong. -/
def countReport (count : String) (cause : Failure) : Failure :=
  .report {
    kind := .execution
    message := "query can't be auto counted, query is: " ++ count
    code := "execution_error"
    detail := [("count_query", .text count)]
    cause := some cause }

/-- A count by a count text has ended as it should: with the number that the backend has
answered, or with the report of the count text that carries what went wrong, whether the
backend has failed or its answer is no number. -/
inductive EndsReported (count : String) : Except Failure (List Value) → Except Failure Int → Prop
  | counted {rows : List Value} {n : Int} (h : CountsAs (Value.scalarOf rows) n) :
      EndsReported count (.ok rows) (.ok n)
  | unanswered (failure : Failure) :
      EndsReported count (.error failure) (.error (countReport count failure))
  | noNumber {rows : List Value} {failure : Failure}
      (h : IsNoNumber (Value.scalarOf rows) failure) :
      EndsReported count (.ok rows) (.error (countReport count failure))

/-- No value fails to be a number with a report. -/
theorem IsNoNumber.ne_countReport {v : Value} {failure : Failure} (h : IsNoNumber v failure)
    (count : String) (cause : Failure) : failure ≠ countReport count cause := by
  cases h <;> exact Failure.noConfusion

namespace Repository

variable {σ ρ : Type} {r : Repository σ ρ} {text count : String} {values : List Value}
  {params : Entries} {w w' : World σ}

/-- A count of a query text whose count text is accepted ends as the backend answers the count
text. -/
theorem countByQuery_run (hcount : countTextFor text values = .ok count)
    (hbindings : checkBindings count values params = .ok ())
    (hopen : r.backend.openQuery.run w = (.ok (), w')) :
    ((r.countByQuery text values params).run w).1 =
      match ((r.backend.textRows (.bindAll count values params)).run w').1 with
      | .ok rows => (Value.scalarOf rows).toCount
      | .error failure => .error (countReport count failure) := by
  simp only [countByQuery, createTextQuery, fetchTextScalar, hcount, hbindings,
    Action.ofExcept_ok_bind, Action.run_bind, Action.run_outcome, hopen, Action.run_pure]
  rcases (r.backend.textRows (.bindAll count values params)).run w' with ⟨failure | rows, w₁⟩
  · rfl
  · rfl

end Repository

/-! ## Answers of a list of rows -/

namespace Collection

open Repository

/-- A store that answers the count of a query text with a single row. -/
def counting (answer : Value) : World Store where
  store := { responders := [("select count(*) from t", .fixed (.list [answer]))] }

end Collection

end PagedQuery
