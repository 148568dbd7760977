import PagedQuery.Predicate.Evaluation
import PagedQuery.Relational.Condition

/-!
# Predicates with missing answers

On one and the same row a predicate can be read in two ways.  Evaluation is
two-valued: a property that is nothing meets no comparison, and negation turns that
around.  A database leaves the answer open there, and an open answer stays open under
negation.  Where the database has an answer, evaluation gives the same one, and
without negations it never says yes to an open one.

Main results:

- Theorem `settles_of_builtFrom`: the truth of an evaluation fits the answer.
- Theorem `Fits.eq`: where there is an answer, a truth that fits it is the same.
- Theorem `Fits.eq_yes`: without negations it tells whether the answer is yes.
- Theorem `answer_ne_unknown`: there is an answer where all compared properties are.
-/

namespace PagedQuery

open Relational

namespace Predicate

/-! ## Reading with missing answers -/

/-- The answer of a comparison that was made; without one the answer is open. -/
def answerOf : Except Failure Bool → Truth
  | .ok met => .ofBool met
  | .error _ => .unknown

mutual
/-- The answer of a predicate on a row, where nothing leaves a comparison open. -/
def answer : Predicate → Value → Truth
  | .compare name op expected, row =>
      if (row.property name).isNull then .unknown
      else answerOf (op.compare (row.property name) expected)
  | .all predicates, row => answerAll predicates row
  | .any predicates, row => answerAny predicates row
  | .not predicate, row => (answer predicate row).negate
  | .foreign test, row => answerOf (test row)

/-- The answer of a conjunction on a row. -/
def answerAll : List Predicate → Value → Truth
  | [], _ => .yes
  | predicate :: predicates, row => (answer predicate row).and (answerAll predicates row)

/-- The answer of a disjunction on a row. -/
def answerAny : List Predicate → Value → Truth
  | [], _ => .no
  | predicate :: predicates, row => (answer predicate row).or (answerAny predicates row)
end

/-! ## Building predicates from comparisons -/

/-- The predicate is built by conjunction and disjunction, and by negation where that
is allowed, from comparisons of some kind. -/
inductive BuiltFrom (kind : String → Operator → Value → Prop) (negations : Bool) :
    Predicate → Prop
  | compare {name op value} (h : kind name op value) :
      BuiltFrom kind negations (.compare name op value)
  | all {predicates} (h : ∀ p ∈ predicates, BuiltFrom kind negations p) :
      BuiltFrom kind negations (.all predicates)
  | any {predicates} (h : ∀ p ∈ predicates, BuiltFrom kind negations p) :
      BuiltFrom kind negations (.any predicates)
  | not {predicate} (hallowed : negations = true) (h : BuiltFrom kind negations predicate) :
      BuiltFrom kind negations (.not predicate)

/-- Comparisons of one kind are of every wider kind. -/
theorem BuiltFrom.mono {kind wider : String → Operator → Value → Prop} {negations : Bool}
    {p : Predicate} (h : BuiltFrom kind negations p)
    (hwider : ∀ name op value, kind name op value → wider name op value) :
    BuiltFrom wider negations p := by
  induction h with
  | compare h => exact .compare (hwider _ _ _ h)
  | all _ ih => exact .all ih
  | any _ ih => exact .any ih
  | not hallowed _ ih => exact .not hallowed ih

/-- A comparison is defined on a row. -/
def IsDefinedOn (row : Value) (name : String) (op : Operator) (value : Value) : Prop :=
  ∃ met, (compare name op value).holds row = .ok met

/-! ## The two readings -/

/-- The truth of an evaluation fits an answer: it is the answer, or the answer is open,
and then it is false unless there are negations. -/
def Fits (negations : Bool) (answer : Truth) (met : Bool) : Prop :=
  answer = .ofBool met ∨ answer = .unknown ∧ (met = true → negations = true)

/-- Both of two truths fit both of two answers. -/
theorem Fits.and {negations : Bool} {s t : Truth} {a b : Bool} (hs : Fits negations s a)
    (ht : Fits negations t b) : Fits negations (s.and t) (a && b) := by
  cases s <;> cases t <;> cases a <;> cases b <;>
    simp_all [Fits, Truth.and, Truth.ofBool]

/-- One of two truths fits one of two answers. -/
theorem Fits.or {negations : Bool} {s t : Truth} {a b : Bool} (hs : Fits negations s a)
    (ht : Fits negations t b) : Fits negations (s.or t) (a || b) := by
  cases s <;> cases t <;> cases a <;> cases b <;>
    simp_all [Fits, Truth.or, Truth.ofBool]

/-- Where there are negations, the opposite truth fits the opposite answer. -/
theorem Fits.negate {s : Truth} {a : Bool} (hs : Fits true s a) :
    Fits true s.negate (!a) := by
  cases s <;> cases a <;> simp_all [Fits, Truth.negate, Truth.ofBool]

/-- An answer that is there is the truth that fits it. -/
theorem Fits.eq {negations : Bool} {t : Truth} {met : Bool} (h : Fits negations t met) :
    (t = .yes → met = true) ∧ (t = .no → met = false) := by
  cases t <;> cases met <;> simp_all [Fits, Truth.ofBool]

/-- Without negations the truth that fits an answer tells whether it is yes. -/
theorem Fits.eq_yes {t : Truth} {met : Bool} (h : Fits false t met) : met = (t == .yes) := by
  cases t <;> cases met <;> simp_all [Fits, Truth.ofBool]

/-- Evaluation of a predicate on a row ends, and its truth fits the answer. -/
def Settles (negations : Bool) (row : Value) (p : Predicate) : Prop :=
  ∃ met, p.holds row = .ok met ∧ Fits negations (p.answer row) met

/-- The evaluation of a comparison that is defined fits its answer. -/
theorem settles_compare {negations : Bool} {name : String} {op : Operator} {value row : Value}
    (h : IsDefinedOn row name op value) : Settles negations row (.compare name op value) := by
  obtain ⟨met, hmet⟩ := h
  refine ⟨met, hmet, ?_⟩
  rw [holds_compare] at hmet
  rw [answer]
  cases hnull : (row.property name).isNull with
  | true =>
      have hfalse : met = false := by simpa [hnull] using hmet.symm
      subst hfalse
      right
      exact ⟨rfl, fun hyes => absurd hyes Bool.false_ne_true⟩
  | false =>
      rw [hnull, if_neg Bool.false_ne_true] at hmet
      left
      rw [hmet]
      rfl

/-- The evaluation of a conjunction fits its answer when that of each member does. -/
theorem settles_all {negations : Bool} {row : Value} {ps : List Predicate}
    (h : ∀ p ∈ ps, Settles negations row p) :
    ∃ met, holdsAll ps row = .ok met ∧ Fits negations (answerAll ps row) met := by
  induction ps with
  | nil => exact ⟨true, rfl, Or.inl rfl⟩
  | cons p ps ih =>
      obtain ⟨met, hmet, hfits⟩ := h p (by simp)
      obtain ⟨rest, hrest, hfits'⟩ := ih fun q hq => h q (by simp [hq])
      refine ⟨met && rest, ?_, hfits.and hfits'⟩
      rw [holdsAll, hmet]
      cases met with
      | true => exact hrest
      | false => rfl

/-- The evaluation of a disjunction fits its answer when that of each member does. -/
theorem settles_any {negations : Bool} {row : Value} {ps : List Predicate}
    (h : ∀ p ∈ ps, Settles negations row p) :
    ∃ met, holdsAny ps row = .ok met ∧ Fits negations (answerAny ps row) met := by
  induction ps with
  | nil => exact ⟨false, rfl, Or.inl rfl⟩
  | cons p ps ih =>
      obtain ⟨met, hmet, hfits⟩ := h p (by simp)
      obtain ⟨rest, hrest, hfits'⟩ := ih fun q hq => h q (by simp [hq])
      refine ⟨met || rest, ?_, hfits.or hfits'⟩
      rw [holdsAny, hmet]
      cases met with
      | true => rfl
      | false => exact hrest

/-- Evaluation of a predicate whose comparisons are defined ends, and its truth fits the
answer. -/
theorem settles_of_builtFrom {p : Predicate} {row : Value} {negations : Bool}
    (h : BuiltFrom (IsDefinedOn row) negations p) : Settles negations row p := by
  induction h with
  | compare h => exact settles_compare h
  | all _ ih =>
      obtain ⟨met, hmet, hfits⟩ := settles_all ih
      exact ⟨met, by rw [holds, hmet], by rw [answer]; exact hfits⟩
  | any _ ih =>
      obtain ⟨met, hmet, hfits⟩ := settles_any ih
      exact ⟨met, by rw [holds, hmet], by rw [answer]; exact hfits⟩
  | not hallowed _ ih =>
      obtain ⟨met, hmet, hfits⟩ := ih
      subst hallowed
      exact ⟨!met, by rw [holds, hmet], by rw [answer]; exact hfits.negate⟩

/-! ## Rows without open answers -/

/-- A comparison is defined on a row, and the row has the property. -/
def IsThereOn (row : Value) (name : String) (op : Operator) (value : Value) : Prop :=
  (row.property name).isNull = false ∧ IsDefinedOn row name op value

/-- A conjunction has an answer when each member has one. -/
theorem answerAll_ne_unknown {row : Value} {ps : List Predicate}
    (h : ∀ p ∈ ps, p.answer row ≠ .unknown) : answerAll ps row ≠ .unknown := by
  induction ps with
  | nil => simp [answerAll]
  | cons p ps ih =>
      have hfirst := h p (by simp)
      have hrest := ih fun q hq => h q (by simp [hq])
      rw [answerAll]
      cases hp : p.answer row <;> cases hps : answerAll ps row <;> simp_all [Truth.and]

/-- A disjunction has an answer when each member has one. -/
theorem answerAny_ne_unknown {row : Value} {ps : List Predicate}
    (h : ∀ p ∈ ps, p.answer row ≠ .unknown) : answerAny ps row ≠ .unknown := by
  induction ps with
  | nil => simp [answerAny]
  | cons p ps ih =>
      have hfirst := h p (by simp)
      have hrest := ih fun q hq => h q (by simp [hq])
      rw [answerAny]
      cases hp : p.answer row <;> cases hps : answerAny ps row <;> simp_all [Truth.or]

/-- A predicate has an answer on a row that has all the properties it compares. -/
theorem answer_ne_unknown {p : Predicate} {row : Value} {negations : Bool}
    (h : BuiltFrom (IsThereOn row) negations p) : p.answer row ≠ .unknown := by
  induction h with
  | compare h =>
      obtain ⟨hthere, met, hmet⟩ := h
      rw [holds_compare, hthere, if_neg Bool.false_ne_true] at hmet
      rw [answer, hthere, if_neg Bool.false_ne_true, hmet]
      cases met <;> simp [answerOf, Truth.ofBool]
  | all _ ih =>
      rw [answer]
      exact answerAll_ne_unknown ih
  | any _ ih =>
      rw [answer]
      exact answerAny_ne_unknown ih
  | @not p _ _ ih =>
      rw [answer]
      cases hp : p.answer row <;> simp_all [Truth.negate]

end Predicate

end PagedQuery
