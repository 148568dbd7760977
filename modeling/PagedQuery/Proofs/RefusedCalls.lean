import PagedQuery.Collection.Responders
import PagedQuery.Proofs.BadArguments
import PagedQuery.Proofs.PageRuns

/-!
# Refused calls

A call is refused for a bad argument before it has touched anything: no query was made,
nothing was executed, and the page is as it was.  Once the checks of a call are passed,
no later one refuses it, unless a test that the caller brings along does.  So what is
refused can be read off the arguments alone.

Main results:

- Theorem `RefusedIff.check` and Theorem `RefusedIff.bind`: checks stand before actions
  that are never refused.
- Theorem `countByQuery_refusedIff` and Theorem `findPageByQuery_refusedIff`: a count
  text takes the bindings that its query text takes, so no check fails late.
- Theorem `perform_refused_iff`: the calls on lists of rows that are refused.
-/

namespace PagedQuery

/-! ## Actions that refuse arguments -/

/-- The call ended with the report of a bad argument. -/
def IsRefusal {α : Type} (result : Except Failure α) : Prop :=
  ∃ failure, result = .error failure ∧ failure.isInvalidArgument = true

/-- A failure is a refusal when it reports a bad argument. -/
@[simp]
theorem isRefusal_error {α : Type} {failure : Failure} :
    IsRefusal (.error failure : Except Failure α) ↔ failure.isInvalidArgument = true := by
  simp [IsRefusal]

/-- A check is a refusal exactly under its condition. -/
theorem FailsIff.isRefusal_iff {α : Type} {check : Except Failure α} {bad : Prop}
    (h : FailsIff check bad) : IsRefusal check ↔ bad := by
  constructor
  · rintro ⟨failure, hfail, -⟩
    refine Classical.byContradiction fun hgood => ?_
    obtain ⟨a, hpass⟩ := h.passes hgood
    rw [hfail] at hpass
    cases hpass
  · exact h.fails

namespace Action

variable {ω α β : Type} {good : ω → Prop} {w : ω} {bad bad' : Prop}

/-- From every good state the action comes to a good state, and its arguments are not
refused. -/
def Admits (good : ω → Prop) (x : Action ω α) : Prop :=
  ∀ w, good w → ¬IsRefusal (x.run w).1 ∧ good (x.run w).2

/-- From a state, the action is refused exactly under a condition.  When it is refused,
nothing has been touched; otherwise it comes to a good state. -/
structure RefusedIff (good : ω → Prop) (x : Action ω α) (w : ω) (bad : Prop) : Prop where
  refused : bad → IsRefusal (x.run w).1 ∧ (x.run w).2 = w
  admitted : ¬bad → ¬IsRefusal (x.run w).1 ∧ good (x.run w).2

/-- A value is no refusal. -/
theorem not_isRefusal_ok (a : α) : ¬IsRefusal (.ok a : Except Failure α) := by
  rintro ⟨failure, h, -⟩
  cases h

/-- Ending with a value refuses nothing. -/
theorem admits_pure (a : α) : (Pure.pure a : Action ω α).Admits good :=
  fun _ hw => ⟨not_isRefusal_ok a, hw⟩

/-- Ending as a computation that refuses nothing refuses nothing. -/
theorem admits_ofExcept {x : Except Failure α} (h : ¬IsRefusal x) :
    (ofExcept x).Admits good :=
  fun _ hw => ⟨h, hw⟩

/-- Holding on to the end of an action refuses nothing. -/
theorem Admits.outcome {x : Action ω α} (hx : x.Admits good) : x.outcome.Admits good :=
  fun w hw => ⟨not_isRefusal_ok _, (hx w hw).2⟩

/-- One action after another refuses nothing when the first one does not, and what
follows its answers does not. -/
theorem Admits.bind_answer {x : Action ω α} {f : α → Action ω β} (hx : x.Admits good)
    (hf : ∀ a, (∃ w, (x.run w).1 = .ok a) → (f a).Admits good) :
    (x >>= f).Admits good := by
  intro w hw
  obtain ⟨hadmitted, hgood⟩ := hx w hw
  rw [run_bind]
  rcases hrun : x.run w with ⟨failure | a, w'⟩
  · rw [hrun] at hadmitted hgood
    refine ⟨?_, hgood⟩
    rintro ⟨other, hother, hinvalid⟩
    cases hother
    exact hadmitted ⟨failure, rfl, hinvalid⟩
  · rw [hrun] at hgood
    exact hf a ⟨w, by rw [hrun]⟩ w' hgood

/-- One action after another refuses nothing when both of them refuse nothing. -/
theorem Admits.bind {x : Action ω α} {f : α → Action ω β} (hx : x.Admits good)
    (hf : ∀ a, (f a).Admits good) : (x >>= f).Admits good :=
  hx.bind_answer fun a _ => hf a

/-- An action that refuses nothing is refused under no condition. -/
theorem Admits.refusedIff {x : Action ω α} (hx : x.Admits good) (hw : good w) :
    x.RefusedIff good w False :=
  ⟨False.elim, fun _ => hx w hw⟩

/-- The condition may be worded in another way. -/
theorem RefusedIff.congr {x : Action ω α} (h : x.RefusedIff good w bad)
    (hiff : bad ↔ bad') : x.RefusedIff good w bad' :=
  ⟨fun hbad => h.refused (hiff.2 hbad), fun hgood => h.admitted fun hbad => hgood (hiff.1 hbad)⟩

/-- Looking at the state is never refused. -/
theorem RefusedIff.state {f : ω → Action ω β} (h : (f w).RefusedIff good w bad) :
    (Action.state >>= f).RefusedIff good w bad := ⟨h.refused, h.admitted⟩

/-- What follows a check is refused when the check fails or the rest is refused. -/
theorem RefusedIff.check {x : Except Failure α} {f : α → Action ω β}
    (hx : FailsIff x bad) (hf : ∀ a, x = .ok a → (f a).RefusedIff good w bad') :
    (Action.ofExcept x >>= f).RefusedIff good w (bad ∨ bad') := by
  constructor
  · intro hbad
    by_cases hb : bad
    · obtain ⟨failure, rfl, hinvalid⟩ := hx.fails hb
      exact ⟨⟨failure, rfl, hinvalid⟩, rfl⟩
    · obtain ⟨a, rfl⟩ := hx.passes hb
      exact (hf a rfl).refused (hbad.resolve_left hb)
  · intro hgood
    rw [not_or] at hgood
    obtain ⟨a, rfl⟩ := hx.passes hgood.1
    exact (hf a rfl).admitted hgood.2

/-- What follows a check and refuses nothing is refused when the check fails. -/
theorem RefusedIff.check_admits {x : Except Failure α} {f : α → Action ω β}
    (hx : FailsIff x bad) (hw : good w) (hf : ∀ a, x = .ok a → (f a).Admits good) :
    (Action.ofExcept x >>= f).RefusedIff good w bad :=
  (RefusedIff.check hx fun a ha => (hf a ha).refusedIff hw).congr (iff_of_eq (or_false bad))

/-- An action is refused when it starts with one that is refused, and goes on with
actions that refuse nothing. -/
theorem RefusedIff.bind {x : Action ω α} {f : α → Action ω β}
    (hx : x.RefusedIff good w bad) (hf : ∀ a, (f a).Admits good) :
    (x >>= f).RefusedIff good w bad := by
  constructor
  · intro hbad
    obtain ⟨⟨failure, hfail, hinvalid⟩, hsame⟩ := hx.refused hbad
    have hrun : x.run w = (.error failure, w) := Prod.ext hfail hsame
    rw [run_bind, hrun]
    exact ⟨⟨failure, rfl, hinvalid⟩, rfl⟩
  · intro hgood
    obtain ⟨hadmitted, hcomes⟩ := hx.admitted hgood
    rw [run_bind]
    rcases hrun : x.run w with ⟨failure | a, w'⟩
    · rw [hrun] at hadmitted hcomes
      refine ⟨?_, hcomes⟩
      rintro ⟨other, hother, hinvalid⟩
      cases hother
      exact hadmitted ⟨failure, rfl, hinvalid⟩
    · rw [hrun] at hcomes
      exact hf a w' hcomes

end Action

open PagedQuery.Action

/-- Changing the value of a result changes nothing about its refusal. -/
theorem isRefusal_map {α β : Type} {x : Except Failure α} {f : α → β} :
    IsRefusal (x.map f) ↔ IsRefusal x := by
  cases x with
  | ok a => exact iff_of_false (not_isRefusal_ok _) (not_isRefusal_ok _)
  | error failure => exact isRefusal_error.trans isRefusal_error.symm

/-! ## Tests of the caller -/

/-- No test that the predicate brings along refuses an argument. -/
inductive Predicate.IsAdmitting : Predicate → Prop
  | compare (name : String) (op : Operator) (value : Value) :
      IsAdmitting (.compare name op value)
  | all {ps} (h : ∀ p ∈ ps, IsAdmitting p) : IsAdmitting (.all ps)
  | any {ps} (h : ∀ p ∈ ps, IsAdmitting p) : IsAdmitting (.any ps)
  | not {p} (h : IsAdmitting p) : IsAdmitting (.not p)
  | foreign {test} (h : ∀ row, ¬IsRefusal (test row)) : IsAdmitting (.foreign test)

/-- A criterion brings no test along. -/
theorem criterion_admitting {name : String} {value : Value} {m : MatchType} {p : Predicate}
    (h : criterion name value m = .ok p) : p.IsAdmitting :=
  criterion_ok h ▸ .compare name m.operator value

/-- Several criteria bring no tests along. -/
theorem criteria_admitting {value : Value} {m : MatchType} {names : List String}
    {ps : List Predicate} (h : criteria value m names = .ok ps) : ∀ p ∈ ps, p.IsAdmitting := by
  induction names generalizing ps with
  | nil =>
      cases h
      exact List.forall_mem_nil _
  | cons name names ih =>
      rw [criteria_cons] at h
      obtain ⟨p, hp, h⟩ := bind_eq_ok h
      obtain ⟨rest, hrest, rfl⟩ := map_eq_ok h
      exact List.forall_mem_cons.2 ⟨criterion_admitting hp, ih hrest⟩

/-- Filters bring no tests along. -/
theorem predicatesOf_admitting {fs : List PropertyFilter} {ps : List Predicate}
    (h : predicatesOf fs = .ok ps) : ∀ p ∈ ps, p.IsAdmitting := by
  induction fs generalizing ps with
  | nil =>
      cases h
      exact List.forall_mem_nil _
  | cons f fs ih =>
      rw [predicatesOf_cons] at h
      obtain ⟨p, hp, h⟩ := bind_eq_ok h
      obtain ⟨rest, hrest, rfl⟩ := map_eq_ok h
      refine List.forall_mem_cons.2 ⟨?_, ih hrest⟩
      unfold PropertyFilter.predicate at hp
      split at hp
      · exact criterion_admitting hp
      · obtain ⟨members, hmembers, rfl⟩ := map_eq_ok hp
        exact .any (criteria_admitting hmembers)

/-- Names and values bring no tests along. -/
theorem equalities_admitting {names : List String} {values : List Value}
    {ps : List Predicate} (h : equalities names values = .ok ps) :
    ∀ p ∈ ps, p.IsAdmitting := by
  unfold equalities at h
  split at h
  · cases h
  · cases h
    rw [← List.map_uncurry_zip_eq_zipWith]
    intro p hp
    obtain ⟨⟨name, value⟩, -, rfl⟩ := List.mem_map.1 hp
    exact .compare name .eq value

/-! ## Calls -/

/-- A call that asks a repository for rows, for a page, or for a text query. -/
inductive QueryCall where
  | find (predicates : List Predicate)
  | findBy (name : String) (value : Value) (m : MatchType)
  | findByNames (names : List String) (values : List Value)
  | findByFilters (filters : List PropertyFilter)
  | findUnique (predicates : List Predicate)
  | findUniqueBy (name : String) (value : Value)
  | findUniqueByNames (names : List String) (values : List Value)
  | getAll (orderBy : String) (direction : Direction)
  | findPage (predicates : List Predicate)
  | findPageBy (name : String) (value : Value) (m : MatchType)
  | findPageByFilters (filters : List PropertyFilter)
  | getAllPage
  | createTextQuery (text : String) (values : List Value) (params : Entries)
  | findByQuery (text : String) (values : List Value) (params : Entries)
  | findUniqueByQuery (text : String) (values : List Value) (params : Entries)
  | batchExecute (text : String) (values : List Value) (params : Entries)
  | countByQuery (text : String) (values : List Value) (params : Entries)
  | findPageByQuery (text : String) (values : List Value) (params : Entries)

/-- What a call answers. -/
inductive QueryAnswer where
  | rows (rows : List Value)
  | row (row : Option Value)
  | query (q : TextQuery)
  | count (total : Int)
  | affected (answer : Value)
  | page

namespace QueryCall

variable {σ ρ : Type}

/-- Make a call, with a page at hand that it may fill. -/
def perform (r : Repository σ ρ) : QueryCall → Action (Visit σ) QueryAnswer
  | find ps => do return .rows (← Repository.outside (r.find ps))
  | findBy name value m => do return .rows (← Repository.outside (r.findBy name value m))
  | findByNames names values => do
      return .rows (← Repository.outside (r.findByNames names values))
  | findByFilters fs => do return .rows (← Repository.outside (r.findByFilters fs))
  | findUnique ps => do return .row (← Repository.outside (r.findUnique ps))
  | findUniqueBy name value => do
      return .row (← Repository.outside (r.findUniqueBy name value))
  | findUniqueByNames names values => do
      return .row (← Repository.outside (r.findUniqueByNames names values))
  | getAll orderBy direction => do
      return .rows (← Repository.outside (r.getAll orderBy direction))
  | findPage ps => do r.findPage ps; return .page
  | findPageBy name value m => do r.findPageBy name value m; return .page
  | findPageByFilters fs => do r.findPageByFilters fs; return .page
  | getAllPage => do r.getAllPage; return .page
  | createTextQuery text values params => do
      return .query (← Repository.outside (r.createTextQuery text values params))
  | findByQuery text values params => do
      return .rows (← Repository.outside (r.findByQuery text values params))
  | findUniqueByQuery text values params => do
      return .row (← Repository.outside (r.findUniqueByQuery text values params))
  | batchExecute text values params => do
      return .affected (← Repository.outside (r.batchExecute text values params))
  | countByQuery text values params => do
      return .count (← Repository.outside (r.countByQuery text values params))
  | findPageByQuery text values params => do
      r.findPageByQuery text values params
      return .page

/-- No test that the call brings along refuses an argument. -/
def IsAdmitting : QueryCall → Prop
  | find ps | findUnique ps | findPage ps => ∀ p ∈ ps, p.IsAdmitting
  | _ => True

/-- The arguments of the call, among them the page at hand, are bad. -/
def IsBad (p : Page Value) : QueryCall → Prop
  | find _ | findUnique _ | findUniqueBy _ _ | getAll _ _ => False
  | findBy _ value m => IsBadSearch value m
  | findByNames names values | findUniqueByNames names values =>
      names.length ≠ values.length
  | findByFilters fs => ∃ f ∈ fs, IsBadSearch f.value f.matchType
  | findPage _ | getAllPage => p.pageSize ≤ 0 ∨ p.HasBadSorts
  | findPageBy _ value m => IsBadSearch value m ∨ p.pageSize ≤ 0 ∨ p.HasBadSorts
  | findPageByFilters fs =>
      (∃ f ∈ fs, IsBadSearch f.value f.matchType) ∨ p.pageSize ≤ 0 ∨ p.HasBadSorts
  | createTextQuery text values params | findByQuery text values params
  | findUniqueByQuery text values params | batchExecute text values params =>
      AreBadBindings text values params
  | countByQuery text values params =>
      IsUncountable text values ∨ AreBadBindings text values params
  | findPageByQuery text values params =>
      p.pageSize ≤ 0 ∨ AreBadBindings text values params ∨
        (p.autoCount = true ∧ IsUncountable text values)

end QueryCall

/-! ## Backends that refuse nothing -/

namespace Repository

variable {σ ρ : Type} (r : Repository σ ρ) {good : σ → Prop}

/-- From every good store, a backend answers or fails, but refuses nothing of its own. -/
structure Admitting (b : Backend σ ρ) (good : σ → Prop) : Prop where
  openQuery : b.openQuery.Admits fun w => good w.store
  rows : ∀ q : Query, (∀ p ∈ q.predicates, p.IsAdmitting) →
    (b.rows q).Admits fun w => good w.store
  textRows : ∀ q, (b.textRows q).Admits fun w => good w.store
  execute : ∀ q, (b.execute q).Admits fun w => good w.store

/-- What an action on the world refuses is refused while a page is at hand. -/
theorem outside_refusedIff {α : Type} {x : Action (World σ) α} {v : Visit σ} {bad : Prop}
    (h : x.RefusedIff (fun w => good w.store) v.world bad) :
    (outside x).RefusedIff (fun v : Visit σ => good v.world.store) v bad := by
  refine ⟨fun hbad => ?_, fun hgood => h.admitted hgood⟩
  obtain ⟨hrefusal, hsame⟩ := h.refused hbad
  refine ⟨hrefusal, ?_⟩
  rw [outside_run, hsame]

/-- What refuses nothing in the world refuses nothing while a page is at hand. -/
theorem outside_admits {α : Type} {x : Action (World σ) α}
    (h : x.Admits fun w => good w.store) :
    (outside x).Admits fun v : Visit σ => good v.world.store :=
  fun v hv => h v.world hv

/-- A journal entry refuses nothing. -/
theorem log_admits (level : Journal.Level) (name : String) (fields : Entries) :
    (r.log level name fields).Admits fun w => good w.store :=
  fun _ hw => ⟨not_isRefusal_ok (), hw⟩

/-- Noting a count refuses nothing. -/
theorem noteCount_admits (total : Int) :
    (r.noteCount total).Admits fun v => good v.world.store :=
  fun _ hv => ⟨not_isRefusal_ok (), hv⟩

/-- Noting rows refuses nothing. -/
theorem noteRows_admits (rows : List Value) :
    (r.noteRows rows).Admits fun v => good v.world.store :=
  fun _ hv => ⟨not_isRefusal_ok (), hv⟩

/-- The query that is made has the predicates and nothing else. -/
theorem createQuery_answer {ps : List Predicate} {w : World σ} {q : Query}
    (h : ((r.createQuery ps).run w).1 = .ok q) : q = r.plainQuery ps := by
  rw [createQuery, run_bind] at h
  rcases hrun : r.backend.openQuery.run w with ⟨failure | _, w'⟩
  · rw [hrun] at h
    cases h
  · rw [hrun] at h
    cases h
    rfl

/-- Reading the numeral of an answer refuses no argument. -/
theorem readAnswerNumeral_not_isRefusal (s : String) : ¬IsRefusal (readAnswerNumeral s) := by
  rintro ⟨failure, h, hinvalid⟩
  unfold readAnswerNumeral at h
  simp only at h
  split at h
  · cases h
    cases hinvalid
  · split at h
    · cases h
      cases hinvalid
    · split at h
      · cases h
        cases hinvalid
      · cases h

/-- Reading an answer as a whole number refuses no argument. -/
theorem toWhole_not_isRefusal (v : Value) : ¬IsRefusal v.toWhole := by
  rintro ⟨failure, h, hinvalid⟩
  unfold Value.toWhole at h
  split at h
  · cases h
  · cases h
  · cases h
    cases hinvalid
  · split at h
    · cases h
    · cases h
      cases hinvalid
  · exact readAnswerNumeral_not_isRefusal _ ⟨failure, h, hinvalid⟩
  · cases h
    cases hinvalid

/-- Reading an answer as a number of rows refuses no argument. -/
theorem toCount_not_isRefusal (v : Value) : ¬IsRefusal v.toCount := by
  unfold Value.toCount
  split
  · exact not_isRefusal_ok 0
  · exact toWhole_not_isRefusal v

/-- The rows of a query text before a page with room for a row can be left out. -/
theorem setTextOffset_first {p : Page Value} (hsize : 0 < p.pageSize) (q : TextQuery) :
    q.setOffset (.int (p.first - 1)) =
      .ok { q with offset := some (.whole (p.first - 1).toNat) } := by
  rw [TextQuery.setOffset, Amount.ofValue?_int "offset" (first_sub_one_nonneg hsize)]
  rfl

/-- The rows of a query text on a page with room for a row can be kept. -/
theorem setTextLimit_pageSize {p : Page Value} (hsize : 0 < p.pageSize) (q : TextQuery) :
    q.setLimit (.int p.pageSize) =
      .ok { q with limit := some (.whole p.pageSize.toNat) } := by
  rw [TextQuery.setLimit, Amount.ofValue?_int "limit" (Int.le_of_lt hsize)]
  rfl

section

variable (h : Admitting r.backend good)

include h

/-- What follows the making of a query refuses nothing when it does not for the query
that was made. -/
theorem createQuery_bind_admits {α : Type} {ps : List Predicate}
    {f : Query → Action (World σ) α}
    (hf : (f (r.plainQuery ps)).Admits fun w => good w.store) :
    (r.createQuery ps >>= f).Admits fun w => good w.store := by
  have hcreate : (r.createQuery ps).Admits fun w => good w.store :=
    h.openQuery.bind fun _ => admits_pure _
  apply hcreate.bind_answer
  rintro q ⟨w, hq⟩
  rw [r.createQuery_answer hq]
  exact hf

/-- Fetching the rows of a query without a transform refuses nothing. -/
theorem fetchAll_admits {q : Query} (hq : q.transform = none)
    (hps : ∀ p ∈ q.predicates, p.IsAdmitting) :
    (r.fetchAll q).Admits fun w => good w.store := by
  intro w hw
  rw [r.fetchAll_run hq]
  exact h.rows q hps w hw

/-- Counting the rows of a query refuses nothing. -/
theorem countResult_admits {q : Query} (hps : ∀ p ∈ q.predicates, p.IsAdmitting) :
    (r.countResult q).Admits fun w => good w.store := by
  intro w hw
  obtain ⟨hadmitted, hgood⟩ := h.rows q.countShape hps w hw
  rw [r.countResult_run]
  refine ⟨?_, hgood⟩
  rcases hrun : (r.backend.rows q.countShape).run w with ⟨failure | rows, w'⟩
  · rw [hrun] at hadmitted
    rintro ⟨other, hother, hinvalid⟩
    cases hother
    exact hadmitted ⟨failure, rfl, hinvalid⟩
  · exact toCount_not_isRefusal _

/-- Finding rows refuses nothing. -/
theorem find_admits {ps : List Predicate} (hps : ∀ p ∈ ps, p.IsAdmitting) :
    (r.find ps).Admits fun w => good w.store := by
  have hfetch : (r.fetchAll (r.plainQuery ps)).Admits fun w => good w.store :=
    r.fetchAll_admits h rfl hps
  exact r.createQuery_bind_admits h hfetch

/-- Finding one row refuses nothing. -/
theorem findUnique_admits {ps : List Predicate} (hps : ∀ p ∈ ps, p.IsAdmitting) :
    (r.findUnique ps).Admits fun w => good w.store := by
  have hfetch : (r.fetchAll { r.plainQuery ps with limit := some (.whole 1) }).Admits
      fun w => good w.store := r.fetchAll_admits h rfl hps
  exact r.createQuery_bind_admits h (hfetch.bind fun _ => admits_pure _)

/-- All rows are found without a refusal. -/
theorem getAll_admits (orderBy : String) (direction : Direction) :
    (r.getAll orderBy direction).Admits fun w => good w.store := by
  apply r.createQuery_bind_admits h
  apply r.fetchAll_admits h
  · split <;> rfl
  · split <;> exact List.forall_mem_nil _

/-- A query text whose bindings are accepted becomes a query without a refusal. -/
theorem createTextQuery_admits {text : String} {values : List Value} {params : Entries}
    (hbindings : checkBindings text values params = .ok ()) :
    (r.createTextQuery text values params).Admits fun w => good w.store := by
  rw [createTextQuery, hbindings, ofExcept_ok_bind]
  exact h.openQuery.bind fun _ => admits_pure _

/-- A query text is refused when its bindings are. -/
theorem createTextQuery_refusedIff (text : String) (values : List Value) (params : Entries)
    {w : World σ} (hw : good w.store) :
    (r.createTextQuery text values params).RefusedIff (fun w => good w.store) w
      (AreBadBindings text values params) := by
  refine RefusedIff.check_admits (checkBindings_failsIff text values params) hw ?_
  intro _ _
  exact h.openQuery.bind fun _ => admits_pure _

/-- What is left of a count once the count text is a query. -/
theorem fetchTextCount_admits (count : String) (q : TextQuery) :
    (do
      match ← (r.fetchTextScalar q).outcome with
      | .ok total => .ofExcept total.toCount
      | .error failure => do
          r.log .warning "query.count_failed"
            [("count_query", .text count), ("error", .text failure.shown)]
          .fail (countFailure count failure) : Action (World σ) Int).Admits
        fun w => good w.store := by
  have hscalar : (r.fetchTextScalar q).Admits fun w => good w.store :=
    (h.textRows q).bind fun _ => admits_pure _
  apply hscalar.outcome.bind
  intro result
  cases result with
  | ok total => exact admits_ofExcept (toCount_not_isRefusal total)
  | error failure =>
      -- The failure of a count is a failed execution, whatever has caused it.
      apply (r.log_admits _ _ _).bind
      intro _ w hw
      refine ⟨?_, hw⟩
      rintro ⟨other, hother, hinvalid⟩
      cases hother
      cases hinvalid

/-- A count is refused when its text has no count text that takes the positional values,
or when its bindings are refused. -/
theorem countByQuery_refusedIff (text : String) (values : List Value) (params : Entries)
    {w : World σ} (hw : good w.store) :
    (r.countByQuery text values params).RefusedIff (fun w => good w.store) w
      (IsUncountable text values ∨ AreBadBindings text values params) := by
  apply RefusedIff.check (countTextFor_failsIff text values)
  intro count hcount
  apply RefusedIff.bind
  · apply (r.createTextQuery_refusedIff h count values params hw).congr
    exact badBindings_countText hcount
  · exact r.fetchTextCount_admits h count

/-! ## Pages -/

/-- What is left of filling a page once its query is made. -/
theorem fillPage_admits {p : Page Value} (hsize : 0 < p.pageSize) (keys : List SortKey)
    {q : Query} (hq : q.transform = none) (hps : ∀ p ∈ q.predicates, p.IsAdmitting) :
    (do
      let q ← .ofExcept (q.setOffset (.int (p.first - 1)))
      let q ← .ofExcept (q.setLimit (.int p.pageSize))
      r.noteRows (← outside (r.fetchAll (keys.foldl Query.addSort q))) :
        Action (Visit σ) Unit).Admits fun v => good v.world.store := by
  simp only [setOffset_first hsize, setLimit_pageSize hsize, ofExcept_ok_bind, foldl_addSort]
  exact Admits.bind (outside_admits (r.fetchAll_admits h hq hps)) r.noteRows_admits

/-- Filling a page is refused when the page has no room for a row or a bad sort
request. -/
theorem findPage_refusedIff {ps : List Predicate} (hps : ∀ p ∈ ps, p.IsAdmitting)
    {v : Visit σ} (hv : good v.world.store) :
    (r.findPage ps).RefusedIff (fun v => good v.world.store) v
      (v.page.pageSize ≤ 0 ∨ v.page.HasBadSorts) := by
  apply RefusedIff.state
  apply RefusedIff.check (checkPageSize_failsIff v.page)
  intro _ hcheck
  have hsize := checkPageSize_ok hcheck
  refine RefusedIff.check_admits (sorts_failsIff v.page) hv ?_
  intro keys _
  have hcreate : (outside (r.createQuery ps)).Admits fun v => good v.world.store :=
    outside_admits (h.openQuery.bind fun _ => admits_pure _)
  apply hcreate.bind_answer
  rintro q ⟨w, hq⟩
  obtain rfl : q = r.plainQuery ps := r.createQuery_answer hq
  have hfill := r.fillPage_admits h hsize keys (q := r.plainQuery ps) rfl hps
  cases v.page.autoCount with
  | false => exact hfill
  | true =>
      apply (outside_admits (r.countResult_admits h (q := r.plainQuery ps) hps)).bind
      intro total
      apply (r.noteCount_admits total).bind
      intro _
      exact hfill

/-- What is left of filling a page from a query text whose bindings are accepted. -/
theorem fillTextPage_admits {p : Page Value} (hsize : 0 < p.pageSize) {text : String}
    {values : List Value} {params : Entries}
    (hbindings : checkBindings text values params = .ok ()) :
    (do
      let q ← outside (r.createTextQuery text values params)
      let q ← .ofExcept (q.setOffset (.int (p.first - 1)))
      let q ← .ofExcept (q.setLimit (.int p.pageSize))
      r.noteRows (← outside (r.backend.textRows q)) :
        Action (Visit σ) Unit).Admits fun v => good v.world.store := by
  simp only [setTextOffset_first hsize, setTextLimit_pageSize hsize, ofExcept_ok_bind]
  apply Admits.bind (outside_admits (r.createTextQuery_admits h hbindings))
  intro q
  exact Admits.bind (outside_admits (h.textRows _)) r.noteRows_admits

/-- Filling a page from a query text is refused when the page has no room for a row,
when the bindings are refused, or when the page asks for a count that is refused. -/
theorem findPageByQuery_refusedIff (text : String) (values : List Value) (params : Entries)
    {v : Visit σ} (hv : good v.world.store) :
    (r.findPageByQuery text values params).RefusedIff (fun v => good v.world.store) v
      (v.page.pageSize ≤ 0 ∨ AreBadBindings text values params ∨
        (v.page.autoCount = true ∧ IsUncountable text values)) := by
  apply RefusedIff.state
  apply RefusedIff.check (checkPageSize_failsIff v.page)
  intro _ hcheck
  have hsize := checkPageSize_ok hcheck
  apply RefusedIff.check (checkBindings_failsIff text values params)
  intro _ hbindings
  have hgood := (checkBindings_failsIff text values params).not_of_ok hbindings
  have hfill := r.fillTextPage_admits h hsize hbindings
  cases v.page.autoCount with
  | false =>
      apply (hfill.refusedIff hv).congr
      simp
  | true =>
      -- The bindings are accepted, so only the count text can be refused.
      have hcount := outside_refusedIff (v := v)
        (r.countByQuery_refusedIff h text values params hv)
      apply RefusedIff.congr _ (show IsUncountable text values ∨
        AreBadBindings text values params ↔ true = true ∧ IsUncountable text values by
          simp [hgood])
      apply hcount.bind
      intro total
      apply (r.noteCount_admits total).bind
      intro _
      exact hfill

/-! ## All calls -/

/-- A call whose tests refuse nothing is refused exactly when its arguments are bad. -/
theorem perform_refusedIff {v : Visit σ} (hv : good v.world.store) {call : QueryCall}
    (hcall : call.IsAdmitting) :
    (call.perform r).RefusedIff (fun v => good v.world.store) v (call.IsBad v.page) := by
  have hanswer {α : Type} {x : Action (World σ) α} {bad : Prop} (answer : α → QueryAnswer)
      (hx : x.RefusedIff (fun w => good w.store) v.world bad) :
      (outside x >>= fun a => Pure.pure (answer a)).RefusedIff
        (fun v => good v.world.store) v bad :=
    (outside_refusedIff hx).bind fun a => admits_pure (answer a)
  cases call with
  | find ps => exact hanswer .rows ((r.find_admits h hcall).refusedIff hv)
  | findBy name value m =>
      apply hanswer .rows
      exact RefusedIff.check_admits (criterion_failsIff name value m) hv
        fun p hp => r.find_admits h (List.forall_mem_singleton.2 (criterion_admitting hp))
  | findByNames names values =>
      apply hanswer .rows
      exact RefusedIff.check_admits (equalities_failsIff names values) hv
        fun ps hps => r.find_admits h (equalities_admitting hps)
  | findByFilters fs =>
      apply hanswer .rows
      exact RefusedIff.check_admits (predicatesOf_failsIff fs) hv
        fun ps hps => r.find_admits h (predicatesOf_admitting hps)
  | findUnique ps => exact hanswer .row ((r.findUnique_admits h hcall).refusedIff hv)
  | findUniqueBy name value =>
      have hcompare := List.forall_mem_singleton.2 (Predicate.IsAdmitting.compare name .eq value)
      exact hanswer .row ((r.findUnique_admits h hcompare).refusedIff hv)
  | findUniqueByNames names values =>
      apply hanswer .row
      exact RefusedIff.check_admits (equalities_failsIff names values) hv
        fun ps hps => r.findUnique_admits h (equalities_admitting hps)
  | getAll orderBy direction =>
      exact hanswer .rows ((r.getAll_admits h orderBy direction).refusedIff hv)
  | findPage ps => exact (r.findPage_refusedIff h hcall hv).bind fun _ => admits_pure _
  | findPageBy name value m =>
      apply RefusedIff.bind _ fun _ => admits_pure _
      exact RefusedIff.check (criterion_failsIff name value m)
        fun p hp =>
          r.findPage_refusedIff h (List.forall_mem_singleton.2 (criterion_admitting hp)) hv
  | findPageByFilters fs =>
      apply RefusedIff.bind _ fun _ => admits_pure _
      exact RefusedIff.check (predicatesOf_failsIff fs)
        fun ps hps => r.findPage_refusedIff h (predicatesOf_admitting hps) hv
  | getAllPage =>
      exact (r.findPage_refusedIff h (List.forall_mem_nil _) hv).bind fun _ => admits_pure _
  | createTextQuery text values params =>
      exact hanswer .query (r.createTextQuery_refusedIff h text values params hv)
  | findByQuery text values params =>
      apply hanswer .rows
      exact (r.createTextQuery_refusedIff h text values params hv).bind h.textRows
  | findUniqueByQuery text values params =>
      apply hanswer .row
      apply (r.createTextQuery_refusedIff h text values params hv).bind
      intro q
      exact (h.textRows _).bind fun _ => admits_pure _
  | batchExecute text values params =>
      apply hanswer .affected
      apply (r.createTextQuery_refusedIff h text values params hv).bind
      intro q
      apply (h.execute q).bind
      intro affected
      exact (r.log_admits _ _ _).bind fun _ => admits_pure _
  | countByQuery text values params =>
      exact hanswer .count (r.countByQuery_refusedIff h text values params hv)
  | findPageByQuery text values params =>
      exact (r.findPageByQuery_refusedIff h text values params hv).bind fun _ => admits_pure _

end

end Repository

end PagedQuery
