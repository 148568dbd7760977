import PagedQuery.Repository.Paging

/-!
# Bad arguments

The arguments of a call are checked by computations without state.  Each check fails
exactly under a condition on the arguments, and then it fails for a bad argument.

Main results:

- Theorem `predicatesOf_failsIff`: filters are refused when one of them looks for
  something that is no text.
- Theorem `sorts_failsIff`: a sort request is refused when it has fields as well as
  directions, and not as many.
- Theorem `checkBindings_failsIff`: bindings are refused when there are values of both
  styles, or more positional ones than placeholders.
- Theorem `badBindings_countText`: a count text takes the same bindings as its query
  text.
-/

namespace PagedQuery

/-! ## Checks -/

/-- The check fails exactly under a condition, and then for a bad argument. -/
structure FailsIff {α : Type} (check : Except Failure α) (bad : Prop) : Prop where
  fails : bad → ∃ failure, check = .error failure ∧ failure.isInvalidArgument = true
  passes : ¬bad → ∃ a, check = .ok a

/-- The condition of a check may be worded in another way. -/
theorem FailsIff.congr {α : Type} {check : Except Failure α} {bad bad' : Prop}
    (h : FailsIff check bad) (hiff : bad ↔ bad') : FailsIff check bad' :=
  ⟨fun hbad => h.fails (hiff.2 hbad), fun hgood => h.passes fun hbad => hgood (hiff.1 hbad)⟩

/-- What passes a check is not under its condition. -/
theorem FailsIff.not_of_ok {α : Type} {check : Except Failure α} {bad : Prop}
    (h : FailsIff check bad) {a : α} (hok : check = .ok a) : ¬bad := by
  intro hbad
  obtain ⟨failure, hfail, -⟩ := h.fails hbad
  rw [hok] at hfail
  cases hfail

/-- A check that fails, fails for a bad argument. -/
theorem FailsIff.invalid {α : Type} {check : Except Failure α} {bad : Prop}
    (h : FailsIff check bad) {failure : Failure} (hfail : check = .error failure) :
    failure.isInvalidArgument = true := by
  by_cases hb : bad
  · obtain ⟨failure', hfail', hinvalid⟩ := h.fails hb
    rw [hfail] at hfail'
    cases hfail'
    exact hinvalid
  · obtain ⟨a, hok⟩ := h.passes hb
    rw [hfail] at hok
    cases hok

/-- A check that refuses under a condition for a bad argument, and goes on otherwise. -/
theorem failsIff_ite {α : Type} {c : Prop} [Decidable c] {message : String}
    {detail : Entries} {rest : Except Failure α} {bad : Prop} (h : FailsIff rest bad) :
    FailsIff (if c then .error (.invalidArgument message detail) else rest) (c ∨ bad) := by
  constructor
  · intro hbad
    by_cases hc : c
    · exact ⟨_, if_pos hc, rfl⟩
    · rw [if_neg hc]
      exact h.fails (hbad.resolve_left hc)
  · intro hgood
    rw [not_or] at hgood
    rw [if_neg hgood.1]
    exact h.passes hgood.2

/-- A value is there under no condition. -/
theorem failsIff_ok {α : Type} (a : α) : FailsIff (.ok a) False :=
  ⟨False.elim, fun _ => ⟨a, rfl⟩⟩

/-- One check and then others fail when one of them does. -/
theorem FailsIff.cons {α : Type} {first : Except Failure α} {rest : Except Failure (List α)}
    {bad bad' : Prop} (hfirst : FailsIff first bad) (hrest : FailsIff rest bad') :
    FailsIff (first.bind fun a => rest.map (a :: ·)) (bad ∨ bad') := by
  constructor
  · intro hbad
    by_cases hb : bad
    · obtain ⟨failure, rfl, hinvalid⟩ := hfirst.fails hb
      exact ⟨failure, rfl, hinvalid⟩
    · obtain ⟨a, rfl⟩ := hfirst.passes hb
      obtain ⟨failure, rfl, hinvalid⟩ := hrest.fails (hbad.resolve_left hb)
      exact ⟨failure, rfl, hinvalid⟩
  · intro hgood
    rw [not_or] at hgood
    obtain ⟨a, rfl⟩ := hfirst.passes hgood.1
    obtain ⟨rest, rfl⟩ := hrest.passes hgood.2
    exact ⟨a :: rest, rfl⟩

/-! ## Criteria and filters -/

/-- Something that is no text is looked for. -/
def IsBadSearch (value : Value) (m : MatchType) : Prop := m = .like ∧ value.isText = false

/-- A criterion is refused when it looks for something that is no text. -/
theorem criterion_failsIff (name : String) (value : Value) (m : MatchType) :
    FailsIff (criterion name value m) (IsBadSearch value m) := by
  apply (failsIff_ite (failsIff_ok _)).congr
  simp [IsBadSearch]

/-- The criteria of properties are made one after another. -/
theorem criteria_cons (value : Value) (m : MatchType) (name : String) (names : List String) :
    criteria value m (name :: names) =
      (criterion name value m).bind fun p => (criteria value m names).map (p :: ·) := by
  rw [criteria]
  cases criterion name value m with
  | error failure => rfl
  | ok p => cases criteria value m names <;> rfl

/-- The criteria of some properties are refused as one of them is. -/
theorem criteria_failsIff (value : Value) (m : MatchType) {names : List String}
    (h : names ≠ []) : FailsIff (criteria value m names) (IsBadSearch value m) := by
  induction names with
  | nil => exact absurd rfl h
  | cons name names ih =>
      have hrest : FailsIff (criteria value m names) (IsBadSearch value m ∧ names ≠ []) := by
        by_cases hnames : names = []
        · subst hnames
          exact (failsIff_ok []).congr (by simp)
        · exact (ih hnames).congr (by simp [hnames])
      rw [criteria_cons]
      apply ((criterion_failsIff name value m).cons hrest).congr
      exact or_iff_left_of_imp And.left

/-- A filter is refused when it looks for something that is no text. -/
theorem predicate_failsIff (f : PropertyFilter) :
    FailsIff f.predicate (IsBadSearch f.value f.matchType) := by
  unfold PropertyFilter.predicate
  split
  · exact criterion_failsIff _ _ _
  · have h := criteria_failsIff f.value f.matchType f.names_ne_nil
    constructor
    · intro hbad
      obtain ⟨failure, hfail, hinvalid⟩ := h.fails hbad
      exact ⟨failure, by rw [hfail]; rfl, hinvalid⟩
    · intro hgood
      obtain ⟨ps, hps⟩ := h.passes hgood
      exact ⟨.any ps, by rw [hps]; rfl⟩

/-- The predicates of filters are made one after another. -/
theorem predicatesOf_cons (f : PropertyFilter) (fs : List PropertyFilter) :
    predicatesOf (f :: fs) =
      f.predicate.bind fun p => (predicatesOf fs).map (p :: ·) := by
  rw [predicatesOf]
  cases f.predicate with
  | error failure => rfl
  | ok p => cases predicatesOf fs <;> rfl

/-- Filters are refused when one of them looks for something that is no text. -/
theorem predicatesOf_failsIff (fs : List PropertyFilter) :
    FailsIff (predicatesOf fs) (∃ f ∈ fs, IsBadSearch f.value f.matchType) := by
  induction fs with
  | nil => exact (failsIff_ok []).congr (by simp)
  | cons f fs ih =>
      rw [predicatesOf_cons]
      apply ((predicate_failsIff f).cons ih).congr
      simp

/-- Names and values are refused when there are not as many of each. -/
theorem equalities_failsIff (names : List String) (values : List Value) :
    FailsIff (equalities names values) (names.length ≠ values.length) := by
  apply (failsIff_ite (failsIff_ok _)).congr
  simp

/-! ## Pages -/

/-- A page is refused when it has no room for a row. -/
theorem checkPageSize_failsIff (p : Page Value) :
    FailsIff (checkPageSize p) (p.pageSize ≤ 0) :=
  (failsIff_ite (failsIff_ok ())).congr (iff_of_eq (or_false _))

/-- The sort request of the page has fields as well as directions, and not as many of
each. -/
def Page.HasBadSorts (p : Page Value) : Prop :=
  p.sortFields ≠ [] ∧ p.directions ≠ [] ∧ p.sortFields.length ≠ p.directions.length

/-- A sort request is refused when it has fields as well as directions, and not as many
of each. -/
theorem sorts_failsIff (p : Page Value) : FailsIff p.sorts p.HasBadSorts := by
  unfold Page.sorts
  split
  · rename_i hunset
    apply (failsIff_ok _).congr
    simp only [Page.isOrderBySet, Bool.not_and, Bool.not_not, Bool.or_eq_true,
      List.isEmpty_iff] at hunset
    simp only [Page.HasBadSorts, false_iff]
    rintro ⟨hfields, hdirections, -⟩
    exact hunset.elim hfields hdirections
  · rename_i hset
    apply (failsIff_ite (failsIff_ok _)).congr
    simp only [Page.isOrderBySet, Bool.not_and, Bool.not_not, Bool.or_eq_true,
      List.isEmpty_iff, not_or] at hset
    simp [Page.HasBadSorts, hset.1, hset.2]

/-! ## Query texts -/

/-- There are values of both styles, or more positional ones than placeholders. -/
def AreBadBindings (text : String) (values : List Value) (params : Entries) : Prop :=
  (values ≠ [] ∧ params ≠ []) ∨ placeholders text < values.length

/-- Bindings are refused when there are values of both styles, or more positional ones
than placeholders. -/
theorem checkBindings_failsIff (text : String) (values : List Value) (params : Entries) :
    FailsIff (checkBindings text values params) (AreBadBindings text values params) := by
  apply (failsIff_ite (failsIff_ite (failsIff_ok ()))).congr
  simp [AreBadBindings]

/-- The query text has no count text, or positional values would find fewer or more
placeholders there. -/
def IsUncountable (text : String) (values : List Value) : Prop :=
  ∀ count, countText text = .ok count →
    values ≠ [] ∧ placeholders count ≠ placeholders text

/-- A query text is refused for a count when it has no count text that takes the
positional values. -/
theorem countTextFor_failsIff (text : String) (values : List Value) :
    FailsIff (Repository.countTextFor text values) (IsUncountable text values) := by
  unfold Repository.countTextFor
  split
  · rename_i failure hnone
    have hinvalid : failure.isInvalidArgument = true := by
      unfold countText at hnone
      split at hnone
      · cases hnone
      · cases hnone
        rfl
    refine ⟨fun _ => ⟨failure, rfl, hinvalid⟩, fun hgood => ?_⟩
    refine absurd (fun count hcount => ?_) hgood
    rw [hnone] at hcount
    cases hcount
  · rename_i count hcount
    have hiff : IsUncountable text values ↔
        values ≠ [] ∧ placeholders count ≠ placeholders text := by
      simp [IsUncountable, hcount]
    rw [hiff]
    split
    · rename_i hbad
      refine ⟨fun _ => ⟨_, rfl, rfl⟩, fun hgood => absurd ?_ hgood⟩
      simpa using hbad
    · rename_i hgood
      refine ⟨fun hbad => absurd ?_ hgood, fun _ => ⟨count, rfl⟩⟩
      simpa using hbad

/-- A count text that is accepted for values is the count text, and when there are values
it has all placeholders. -/
theorem countTextFor_ok {text count : String} {values : List Value}
    (h : Repository.countTextFor text values = .ok count) :
    countText text = .ok count ∧ (values ≠ [] → placeholders count = placeholders text) := by
  unfold Repository.countTextFor at h
  split at h
  · cases h
  · rename_i hcount
    split at h
    · cases h
    · rename_i hgood
      cases h
      exact ⟨hcount, by simpa using hgood⟩

/-- A count text takes the same bindings as its query text. -/
theorem badBindings_countText {text count : String} {values : List Value} {params : Entries}
    (h : Repository.countTextFor text values = .ok count) :
    AreBadBindings count values params ↔ AreBadBindings text values params := by
  by_cases hvalues : values = []
  · simp [AreBadBindings, hvalues]
  · rw [AreBadBindings, AreBadBindings, (countTextFor_ok h).2 hvalues]

end PagedQuery
