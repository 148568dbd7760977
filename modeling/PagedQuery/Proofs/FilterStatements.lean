import PagedQuery.Proofs.FilterConditions
import PagedQuery.Proofs.RefusedPages
import PagedQuery.Proofs.SharedRows

/-!
# Statements of filters

The filters of a request become a statement, which a database sends and runs.  The statement
fails with the first objection to the filters.  If there is none, it fails for an unknown
field to sort by, in the engine, or for a number that is too large to be sent.  The kinds of
the columns play no part in this; truth values are kept in columns of whole numbers.

Main results:

- Theorem `selection_fails`: how a query of filters fails.
-/

namespace PagedQuery
namespace Relational

open Repository

/-! ## Ways to fail -/

/-- How a computation with filters fails: with the objection to the filters, if there is
one; else for a bad argument, in the engine, or for a number that is too large. -/
structure FailsFor {α : Type} (entity : String) (objection : Option Failure) (large : Prop)
    (x : Except Failure α) : Prop where
  objected : ∀ failure, objection = some failure → x = .error failure
  kinds : ∀ failure, x = .error failure →
    failure.isInvalidArgument = true ∨ IsQueryFailure entity failure ∨
      failure = .engine .argument ∧ objection = some (.engine .argument) ∨
      failure = .overflow ∧ large
  overflows : large → x = .error .overflow

namespace FailsFor

variable {α β : Type} {entity : String} {objection : Option Failure} {large large' : Prop}
  {x : Except Failure α}

/-- What is made of a value fails as the value does. -/
theorem map (h : FailsFor entity objection large x) (f : α → β) :
    FailsFor entity objection large (x.map f) where
  objected other hother := map_eq_error.2 (h.objected other hother)
  kinds other hother := h.kinds other (map_eq_error.1 hother)
  overflows hlarge := map_eq_error.2 (h.overflows hlarge)

/-- Two computations with the same filters, one after the other, fail as the first one
does, or else as the second one. -/
theorem bind (h : FailsFor entity objection large x) {y : Except Failure β}
    (h' : FailsFor entity objection large' y) :
    FailsFor entity objection (large ∨ large' ∧ ∃ a, x = .ok a) (x.bind fun _ => y) where
  objected other hother := bind_eq_error.2 (.inl (h.objected other hother))
  kinds other hother := by
    rcases bind_eq_error.1 hother with hother | ⟨hok, hother⟩
    · exact (h.kinds other hother).imp_right (Or.imp_right (Or.imp_right fun ⟨hkind, hlarge⟩ =>
        ⟨hkind, .inl hlarge⟩))
    · exact (h'.kinds other hother).imp_right (Or.imp_right (Or.imp_right fun ⟨hkind, hlarge⟩ =>
        ⟨hkind, .inr ⟨hlarge, hok⟩⟩))
  overflows := by
    rintro (hlarge | ⟨hlarge, hok⟩)
    · exact bind_eq_error.2 (.inl (h.overflows hlarge))
    · exact bind_eq_error.2 (.inr ⟨hok, h'.overflows hlarge⟩)

/-- The condition for a number that is too large may be worded in another way. -/
theorem congr (h : FailsFor entity objection large x) (hiff : large ↔ large') :
    FailsFor entity objection large' x :=
  propext hiff ▸ h

end FailsFor

/-! ## Statements of filters -/

/-- A query comes to the point at which its values are sent: it becomes a statement, and
the statement comes to that point. -/
def IsRun (db : Database) (t : Table) (q : Query) : Prop :=
  ∃ s, Selection.ofQuery t.schema q = .ok s ∧ Reaches db t s

/-- An objection is the report of an unknown property, or the refusal of the order of a truth
value. -/
theorem firstObjection_cases {s : Schema} {fs : List PropertyFilter} {failure : Failure}
    (h : firstObjection s fs = some failure) :
    failure.isInvalidArgument = true ∨ failure = .engine .argument := by
  obtain ⟨f, -, hf⟩ := List.exists_of_findSome?_eq_some h
  obtain ⟨name, -, hname⟩ := List.exists_of_findSome?_eq_some hf
  rw [objection] at hname
  split at hname
  · exact .inl (Option.some.inj hname ▸ rfl)
  · split at hname
    · exact .inr (Option.some.inj hname).symm
    · cases hname

section

variable {fs : List PropertyFilter} {q : Query}
  (hnames : projectionNames q.projection = []) {offset limit : Option Nat}
  (hoffset : givenAmount Amount.truncated q.offset = .ok offset)
  (hlimit : givenAmount Amount.truncated q.limit = .ok limit) {db : Database} {t : Table}
  (htable : db.table q.entity = .ok t)

include hnames htable

/-- A query fails with the objection to its filters. -/
theorem selection_objected {failure : Failure}
    (hobjection : firstObjection t.schema fs = some failure)
    (hends : Condition.ofPredicates t.schema q.predicates = .error failure) :
    FailsFor q.entity (firstObjection t.schema fs)
      (IsRun db t q ∧ (HasOversized fs ∨ IsLong offset limit))
      (selection db q) := by
  have hmade : Selection.ofQuery t.schema q = .error failure := by
    simp only [Selection.ofQuery, hnames, checkProperties, hends]
  have hfails : selection db q = .error failure := by
    rw [selection_found htable, hmade]
    rfl
  rw [hobjection, hfails]
  refine ⟨fun other hother => by rw [Option.some.inj hother], fun other hother => ?_, ?_⟩
  · cases hother
    rcases firstObjection_cases hobjection with hinvalid | rfl
    · exact .inl hinvalid
    · exact .inr (.inr (.inl ⟨rfl, rfl⟩))
  · rintro ⟨⟨s, hs, -⟩, -⟩
    rw [hmade] at hs
    cases hs

/-- A query whose filters are in order fails for an unknown field to sort by. -/
theorem selection_unordered {cs : List (Condition Value)}
    (hcs : Condition.ofPredicates t.schema q.predicates = .ok cs)
    (hunknown : ∃ name ∈ q.sorts.map (·.field), t.schema.column? name = none) :
    FailsFor q.entity none
      (IsRun db t q ∧ (HasOversized fs ∨ IsLong offset limit))
      (selection db q) := by
  obtain ⟨failure, hfail, hinvalid⟩ :=
    (checkProperties_failsIff t.schema (q.sorts.map (·.field))).fails hunknown
  have hmade : Selection.ofQuery t.schema q = .error failure := by
    simp only [Selection.ofQuery, hnames, checkProperties, hcs, hfail]
  have hfails : selection db q = .error failure := by
    rw [selection_found htable, hmade]
    rfl
  rw [hfails]
  refine ⟨?_, fun other hother => .inl ?_, ?_⟩
  · rintro other ⟨⟩
  · exact Except.error.inj hother ▸ hinvalid
  · rintro ⟨⟨s, hs, -⟩, -⟩
    rw [hmade] at hs
    cases hs

include hoffset hlimit

/-- A query that becomes a statement fails in the engine, or for a number that is too
large. -/
theorem selection_made {cs : List (Condition Value)}
    (hcs : Condition.ofPredicates t.schema q.predicates = .ok cs)
    (hknown : ¬∃ name ∈ q.sorts.map (·.field), t.schema.column? name = none)
    (hlarge : HasOversized fs → (Condition.foldConj cs).send = .error .overflow)
    (hfit : ¬HasOversized fs → ∃ d, (Condition.foldConj cs).send = .ok d) :
    FailsFor q.entity none
      (IsRun db t q ∧ (HasOversized fs ∨ IsLong offset limit))
      (selection db q) := by
  obtain ⟨_, hpass⟩ :=
    (checkProperties_failsIff t.schema (q.sorts.map (·.field))).passes hknown
  have hshow : checkProperties t.schema (projectionNames q.projection) = .ok () := by
    rw [hnames]
    rfl
  have hmade := ofQuery_made hshow hcs hpass hoffset hlimit
  have hselect := selection_found htable
  rw [hmade] at hselect
  change selection db q = (reporting _ (runOn db t (statementOf t.schema cs q offset limit))).map
    _ at hselect
  obtain ⟨hkinds, hover⟩ :=
    runOn_fails (s := statementOf t.schema cs q offset limit) hlarge hfit db t
  refine ⟨?_, ?_, ?_⟩
  · rintro other ⟨⟩
  · intro failure h
    cases hrun : runOn db t (statementOf t.schema cs q offset limit) with
    | ok selected =>
        rw [hselect, hrun] at h
        cases h
    | error cause =>
        rw [hselect, hrun] at h
        cases h
        rcases hkinds cause hrun with ⟨fault, rfl⟩ | rfl
        · exact .inr (.inl ⟨fault, rfl⟩)
        · obtain ⟨hreaches, hbig⟩ := hover.1 hrun
          exact .inr (.inr (.inr ⟨rfl, ⟨_, hmade, hreaches⟩, hbig⟩))
  · rintro ⟨⟨s, hs, hreaches⟩, hbig⟩
    obtain rfl : s = statementOf t.schema cs q offset limit :=
      Except.ok.inj (hs.symm.trans hmade)
    rw [hselect, hover.2 ⟨hreaches, hbig⟩]
    rfl

/-- A query of filters fails with the objection to them.  If there is none, it fails for an
unknown field to sort by, in the engine, or for a number that is too large. -/
theorem selection_fails (hsound : ∀ f ∈ fs, f.IsSound)
    (hscalar : ∀ f ∈ fs, f.value.isScalar = true)
    (hpredicates : q.predicates = fs.map PropertyFilter.joined) :
    FailsFor q.entity (firstObjection t.schema fs)
      (IsRun db t q ∧ (HasOversized fs ∨ IsLong offset limit))
      (selection db q) := by
  have hends : EndsAs (Condition.ofPredicates t.schema q.predicates)
      (firstObjection t.schema fs) (Match MadeOf fs) := by
    rw [hpredicates]
    exact ofPredicates_joined hsound hscalar
  cases hobjection : firstObjection t.schema fs with
  | some failure =>
      rw [hobjection, EndsAs] at hends
      rw [← hobjection]
      exact selection_objected hnames htable hobjection hends
  | none =>
      rw [hobjection] at hends
      obtain ⟨cs, hcs, hmatch⟩ := hends
      obtain ⟨hlarge, hfit⟩ := send_filters hsound hscalar hmatch
      by_cases hknown : ∃ name ∈ q.sorts.map (·.field), t.schema.column? name = none
      · exact selection_unordered hnames htable hcs hknown
      · exact selection_made hnames hoffset hlimit htable hcs hknown hlarge hfit

end

end Relational
end PagedQuery
