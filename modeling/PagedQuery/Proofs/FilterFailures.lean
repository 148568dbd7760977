import PagedQuery.Proofs.FilterStatements

/-!
# Failures of calls with filters

A call with the filters of a request over a database ends with rows, with the report of a bad
argument, or with the report of a query that the engine refused.  There are two more ways to
end, which no report stands for: the order of a truth value is refused while a statement is
built, and a number that is too large is refused while a statement is sent.

Main results:

- Theorem `findPage_ends`: a page ends as its count and then its rows do.
- Theorem `filterCall_fails`: how calls with filters fail, and when they do so without a
  report.
-/

namespace PagedQuery
namespace Relational

open Repository PagedQuery.Action

/-! ## How calls end -/

variable {entity : String} {ps : List Predicate}

/-- Finding rows ends as their statement does. -/
theorem find_ends (w : World Database) :
    (((find ⟨backend, entity⟩ ps).run w).1.map fun _ => ()) =
      (selection w.store (plainQuery ⟨backend, entity⟩ ps)).map fun _ => () := by
  rw [find_shown]
  cases selection w.store (plainQuery ⟨backend, entity⟩ ps) <;> rfl

/-- A count ends as its statement does. -/
theorem countResult_ends (entity : String) (q : Query) (w : World Database) :
    (((countResult ⟨backend, entity⟩ q).run w).1.map fun _ => ()) =
      (selection w.store q.countShape).map fun _ => () := by
  have hrun : ((countResult ⟨backend, entity⟩ q).run w).1 =
      ((fetchRows q.countShape).run w).1.bind fun rows => (Value.scalarOf rows).toCount :=
    congrArg Prod.fst (countResult_run ⟨backend, entity⟩ q w)
  rw [hrun, (fetchRows_shown _ w).1]
  cases hselection : selection w.store q.countShape with
  | error failure => rfl
  | ok found =>
      obtain ⟨t, selected⟩ := found
      obtain ⟨s, -, hmade, -, -, hran⟩ := selection_eq_ok.1 hselection
      obtain ⟨cs, offset, limit, -, hoffset, hlimit, rfl⟩ := ofQuery_ok hmade
      obtain ⟨sent, -, hsend, hanswer⟩ := Selection.run_eq_ok hran
      obtain ⟨condition, -, -, -, rfl⟩ := Selection.send_eq_ok hsend
      obtain ⟨met, -, rfl⟩ := w.store.engine.answer_selects hanswer
      cases hoffset
      cases hlimit
      rfl

/-- Putting rows on a page ends as their statement does. -/
theorem fillRows_ends {q : Query} (hq : q.transform = none) (v : Visit Database) :
    ((fillRows ⟨backend, entity⟩ q).run v).1 =
      (selection v.world.store q).map fun _ => () := by
  have hrun : ((fillRows ⟨backend, entity⟩ q).run v).1 =
      ((fetchRows q).run v.world).1.map fun _ => () := by
    simp only [fillRows, run_bind, outside_run, fetchAll_run _ hq]
    change _ = ((backend.rows q).run v.world).1.map _
    rcases (backend.rows q).run v.world with ⟨failure | rows, w⟩ <;> rfl
  rw [hrun, (fetchRows_shown q v.world).1]
  cases selection v.world.store q <;> rfl

/-- A page whose request is accepted ends as its count does, if there is one, and then as its
rows do. -/
theorem findPage_ends {p : Page Value} {keys : List SortKey} (hsize : 0 < p.pageSize)
    (hkeys : p.sorts = .ok keys) (w : World Database) :
    ((findPage ⟨backend, entity⟩ ps).run ⟨w, p⟩).1 =
      (if p.autoCount then
          (selection w.store (plainQuery ⟨backend, entity⟩ ps).countShape).map fun _ => ()
        else .ok ()).bind fun _ =>
      (selection w.store (pageQuery ⟨backend, entity⟩ ps keys p)).map fun _ => () := by
  let r : Repository Database Instance := ⟨backend, entity⟩
  have hopen : backend.openQuery.run w = (.ok (), w) := rfl
  rw [r.findPage_accepted hsize hkeys hopen, countAndFill]
  cases p.autoCount with
  | false => exact fillRows_ends rfl _
  | true =>
      have hends := countResult_ends entity (r.plainQuery ps) w
      have hstore : ((r.countResult (r.plainQuery ps)).run w).2.store = w.store := by
        rw [r.countResult_run]
        exact fetchRows_countShape_store (r.plainQuery ps) w
      simp only [if_true, run_bind, outside_run]
      rcases hcounting : (r.countResult (r.plainQuery ps)).run w with ⟨failure | n, w'⟩
      · rw [hcounting] at hends
        rw [← hends]
        rfl
      · rw [hcounting] at hends hstore
        obtain ⟨w'', hnote, hnoted⟩ := r.noteCount_run n ⟨w', p⟩
        have hsame : w''.store = w.store := hnoted.trans hstore
        rw [← hends, ← hsame]
        simp only [hnote]
        exact fillRows_ends rfl _

/-! ## Calls with filters -/

/-- A call with the filters of a request: for all rows, or for those of a page. -/
inductive FilterCall where
  | rows
  | page (p : Page Value)

/-- One of the filters looks for something that is no text. -/
def HasBadSearch (fs : List PropertyFilter) : Prop :=
  ∃ f ∈ fs, IsBadSearch f.value f.matchType

namespace FilterCall

/-- How a call ends. -/
def outcome (entity : String) (fs : List PropertyFilter) (w : World Database) :
    FilterCall → Except Failure Unit
  | rows => ((findByFilters ⟨backend, entity⟩ fs).run w).1.map fun _ => ()
  | page p => ((findPageByFilters ⟨backend, entity⟩ fs).run ⟨w, p⟩).1

/-- The page of a call has room for a row, and its sort request is in order. -/
def IsAccepted : FilterCall → Prop
  | rows => True
  | page p => 0 < p.pageSize ∧ ¬p.HasBadSorts

/-- A call comes to send a number that is too large: the value of a filter, with the count
of a page, or else the value of a filter or a length of the slice, with the rows, which were
counted if that is asked for. -/
def Overflows (entity : String) (fs : List PropertyFilter) (w : World Database) (t : Table) :
    FilterCall → Prop
  | rows =>
      IsRun w.store t (plainQuery ⟨backend, entity⟩ (fs.map PropertyFilter.joined)) ∧
        HasOversized fs
  | page p => ∃ keys, p.sorts = .ok keys ∧
      (p.autoCount = true ∧ IsRun w.store t
          (plainQuery ⟨backend, entity⟩ (fs.map PropertyFilter.joined)).countShape ∧
        HasOversized fs ∨
      IsRun w.store t (pageQuery ⟨backend, entity⟩ (fs.map PropertyFilter.joined) keys p) ∧
        (HasOversized fs ∨ IsLong (some (p.first - 1).toNat) (some p.pageSize.toNat)) ∧
        (p.autoCount = true → ∃ n, ((countResult ⟨backend, entity⟩
          { entity := entity, predicates := fs.map PropertyFilter.joined }).run w).1 = .ok n))

end FilterCall

/-- Nothing is too large where there is no slice. -/
theorem not_isLong_unsliced : ¬IsLong none none := by
  rintro ⟨n, h | h, -⟩ <;> cases h

section

variable {fs : List PropertyFilter} {w : World Database} {t : Table}
  (hsound : ∀ f ∈ fs, f.IsSound) (hscalar : ∀ f ∈ fs, f.value.isScalar = true)
  (htable : w.store.table entity = .ok t)

include hsound hscalar htable

/-- Finding the rows of filters fails as their statement does. -/
theorem find_fails :
    FailsFor entity (firstObjection t.schema fs) (FilterCall.rows.Overflows entity fs w t)
      (((find ⟨backend, entity⟩ (fs.map PropertyFilter.joined)).run w).1.map fun _ => ()) := by
  rw [find_ends]
  have hselection := selection_fails
    (q := plainQuery ⟨backend, entity⟩ (fs.map PropertyFilter.joined)) rfl rfl rfl htable
    hsound hscalar rfl
  apply (hselection.map fun _ => ()).congr
  rw [FilterCall.Overflows, or_iff_left not_isLong_unsliced]

/-- A page of filters fails as its count does, or else as its rows do. -/
theorem findPage_fails {p : Page Value} {keys : List SortKey} (hsize : 0 < p.pageSize)
    (hkeys : p.sorts = .ok keys) :
    FailsFor entity (firstObjection t.schema fs) ((FilterCall.page p).Overflows entity fs w t)
      ((findPage ⟨backend, entity⟩ (fs.map PropertyFilter.joined)).run ⟨w, p⟩).1 := by
  let r : Repository Database Instance := ⟨backend, entity⟩
  let ps := fs.map PropertyFilter.joined
  have hrows := selection_fails (q := r.pageQuery ps keys p) rfl rfl rfl htable hsound hscalar rfl
  have hcount := selection_fails (q := (r.plainQuery ps).countShape) rfl rfl rfl htable
    hsound hscalar rfl
  have hone : ∀ {wanted : List SortKey → Prop},
      (∃ keys', p.sorts = .ok keys' ∧ wanted keys') ↔ wanted keys := by
    intro wanted
    rw [hkeys]
    constructor
    · rintro ⟨_, ⟨⟩, h⟩
      exact h
    · exact fun h => ⟨keys, rfl, h⟩
  rw [findPage_ends hsize hkeys]
  cases hauto : p.autoCount with
  | false =>
      apply (hrows.map fun _ => ()).congr
      rw [FilterCall.Overflows, hone, hauto]
      constructor
      · rintro ⟨hrun, hlarge⟩
        exact .inr ⟨hrun, hlarge, fun h => absurd h Bool.false_ne_true⟩
      · rintro (⟨hauto, -⟩ | ⟨hrun, hlarge, -⟩)
        · exact absurd hauto Bool.false_ne_true
        · exact ⟨hrun, hlarge⟩
  | true =>
      have hends := countResult_ends entity (r.plainQuery ps) w
      have hcounted : (∃ a, ((selection w.store (r.plainQuery ps).countShape).map fun _ => ()) =
          .ok a) ↔ ∃ n, ((r.countResult (r.plainQuery ps)).run w).1 = .ok n := by
        rw [← hends]
        cases ((r.countResult (r.plainQuery ps)).run w).1 <;> simp [Except.map]
      apply ((hcount.map fun _ => ()).bind (hrows.map fun _ => ())).congr
      rw [FilterCall.Overflows, hone, hauto, hcounted, or_iff_left not_isLong_unsliced]
      constructor
      · rintro (⟨hrun, hover⟩ | ⟨⟨hrun, hlarge⟩, hcount⟩)
        · exact .inl ⟨rfl, hrun, hover⟩
        · exact .inr ⟨hrun, hlarge, fun _ => hcount⟩
      · rintro (⟨-, hrun, hover⟩ | ⟨hrun, hlarge, hcount⟩)
        · exact .inl ⟨hrun, hover⟩
        · exact .inr ⟨⟨hrun, hlarge⟩, hcount rfl⟩

end

/-- A call whose filters are no bad searches, and whose page is accepted, fails as its
statements do. -/
theorem outcome_fails {fs : List PropertyFilter} {w : World Database} {t : Table}
    (hscalar : ∀ f ∈ fs, f.value.isScalar = true) (htable : w.store.table? entity = some t)
    (hgood : ¬HasBadSearch fs) {call : FilterCall} (haccepted : call.IsAccepted) :
    FailsFor entity (firstObjection t.schema fs) (call.Overflows entity fs w t)
      (call.outcome entity fs w) := by
  obtain ⟨_, hpass⟩ := (predicatesOf_failsIff fs).passes hgood
  have hsound := isSound_of_predicatesOf hpass
  have hjoined := predicatesOf_joined hsound
  have hfound : w.store.table entity = .ok t := by
    rw [Database.table, htable]
  cases call with
  | rows =>
      rw [FilterCall.outcome, findByFilters, hjoined, ofExcept_ok_bind]
      exact find_fails hsound hscalar hfound
  | page p =>
      obtain ⟨hsize, hsorts⟩ := haccepted
      obtain ⟨keys, hkeys⟩ := (sorts_failsIff p).passes hsorts
      rw [FilterCall.outcome, findPageByFilters, hjoined, ofExcept_ok_bind]
      exact findPage_fails hsound hscalar hfound hsize hkeys

/-- A call with a bad search is refused. -/
theorem outcome_badSearch {fs : List PropertyFilter} (hbad : HasBadSearch fs)
    (w : World Database) (call : FilterCall) : IsRefusal (call.outcome entity fs w) := by
  obtain ⟨failure, hfail, hinvalid⟩ := (predicatesOf_failsIff fs).fails hbad
  refine ⟨failure, ?_, hinvalid⟩
  cases call with
  | rows =>
      rw [FilterCall.outcome, findByFilters, hfail]
      rfl
  | page p =>
      rw [FilterCall.outcome, findPageByFilters, hfail]
      rfl

/-- A call whose page is not accepted is refused. -/
theorem outcome_unaccepted {call : FilterCall} (h : ¬call.IsAccepted) (fs : List PropertyFilter)
    (w : World Database) : IsRefusal (call.outcome entity fs w) := by
  by_cases hbad : HasBadSearch fs
  · exact outcome_badSearch hbad w call
  · obtain ⟨ps, hpass⟩ := (predicatesOf_failsIff fs).passes hbad
    cases call with
    | rows => exact absurd trivial h
    | page p =>
        rw [FilterCall.outcome, findPageByFilters, hpass, ofExcept_ok_bind]
        simp only [findPage, run_bind, run_state, run_ofExcept]
        by_cases hsize : p.pageSize ≤ 0
        · obtain ⟨failure, hfail, hinvalid⟩ := (checkPageSize_failsIff p).fails hsize
          rw [hfail]
          exact ⟨failure, rfl, hinvalid⟩
        · have hsorts : p.HasBadSorts :=
            Classical.not_not.1 fun hsorts => h ⟨Int.not_le.1 hsize, hsorts⟩
          obtain ⟨_, hcheck⟩ := (checkPageSize_failsIff p).passes hsize
          obtain ⟨failure, hfail, hinvalid⟩ := (sorts_failsIff p).fails hsorts
          rw [hcheck, hfail]
          exact ⟨failure, rfl, hinvalid⟩

/-- How a call with the filters of a request fails over a database.  A bad search is refused.
Otherwise the first objection to the filters is what a call whose page is accepted fails with.
Every failure is the report of a bad argument or of a query that the engine refused, with two
exceptions: there is no report when the first objection is that the order of a truth value is
asked for, and none when a number that is too large comes to be sent. -/
theorem filterCall_fails {fs : List PropertyFilter}
    (hread : ∀ f ∈ fs, ∃ spec raw, PropertyFilter.parse spec raw = .ok f)
    {w : World Database} {t : Table} (htable : w.store.table? entity = some t)
    (call : FilterCall) :
    (HasBadSearch fs → IsRefusal (call.outcome entity fs w)) ∧
    (¬HasBadSearch fs → call.IsAccepted → ∀ failure, firstObjection t.schema fs = some failure →
      call.outcome entity fs w = .error failure) ∧
    (∀ failure, call.outcome entity fs w = .error failure →
      failure.isInvalidArgument = true ∨ IsQueryFailure entity failure ∨
        failure = .engine .argument ∨ failure = .overflow) ∧
    (call.outcome entity fs w = .error (.engine .argument) ↔
      ¬HasBadSearch fs ∧ call.IsAccepted ∧
        firstObjection t.schema fs = some (.engine .argument)) ∧
    (call.outcome entity fs w = .error .overflow ↔
      ¬HasBadSearch fs ∧ call.IsAccepted ∧ call.Overflows entity fs w t) := by
  have hscalar : ∀ f ∈ fs, f.value.isScalar = true := by
    intro f hf
    obtain ⟨spec, raw, hparse⟩ := hread f hf
    exact parse_isScalar hparse
  by_cases hgood : ¬HasBadSearch fs ∧ call.IsAccepted
  · obtain ⟨hsearch, haccepted⟩ := hgood
    have hfails := outcome_fails hscalar htable hsearch haccepted
    refine ⟨fun hbad => absurd hbad hsearch, fun _ _ => hfails.objected, ?_, ?_, ?_⟩
    · intro failure h
      rcases hfails.kinds failure h with hinvalid | hengine | ⟨hargument, -⟩ | ⟨hoverflow, -⟩
      · exact .inl hinvalid
      · exact .inr (.inl hengine)
      · exact .inr (.inr (.inl hargument))
      · exact .inr (.inr (.inr hoverflow))
    · constructor
      · intro h
        rcases hfails.kinds _ h with hinvalid | ⟨_, hengine⟩ | ⟨-, hobjection⟩ | ⟨hoverflow, -⟩
        · cases hinvalid
        · cases hengine
        · exact ⟨hsearch, haccepted, hobjection⟩
        · cases hoverflow
      · exact fun ⟨_, _, hobjection⟩ => hfails.objected _ hobjection
    · constructor
      · intro h
        rcases hfails.kinds _ h with hinvalid | ⟨_, hengine⟩ | ⟨hargument, -⟩ | ⟨-, hlarge⟩
        · cases hinvalid
        · cases hengine
        · cases hargument
        · exact ⟨hsearch, haccepted, hlarge⟩
      · exact fun ⟨_, _, hlarge⟩ => hfails.overflows hlarge
  · have hrefused : IsRefusal (call.outcome entity fs w) := by
      by_cases hsearch : HasBadSearch fs
      · exact outcome_badSearch hsearch w call
      · exact outcome_unaccepted (fun haccepted => hgood ⟨hsearch, haccepted⟩) fs w
    obtain ⟨failure, hfailure, hinvalid⟩ := hrefused
    have hnever : ∀ other, other.isInvalidArgument = false →
        call.outcome entity fs w ≠ .error other := by
      intro other hother h
      rw [Except.error.inj (hfailure.symm.trans h), hother] at hinvalid
      cases hinvalid
    refine ⟨fun _ => ⟨failure, hfailure, hinvalid⟩, ?_, ?_, ?_, ?_⟩
    · exact fun hsearch haccepted => absurd ⟨hsearch, haccepted⟩ hgood
    · intro other h
      rw [hfailure] at h
      exact .inl (Except.error.inj h ▸ hinvalid)
    · exact iff_of_false (hnever _ rfl) fun ⟨hsearch, haccepted, _⟩ => hgood ⟨hsearch, haccepted⟩
    · exact iff_of_false (hnever _ rfl) fun ⟨hsearch, haccepted, _⟩ => hgood ⟨hsearch, haccepted⟩

/-- The filter on an age that is greater than a truth value. -/
def olderThanTrue : PropertyFilter where
  matchType := .gt
  propertyType := .boolean
  names := ["age"]
  value := .bool true
  names_ne_nil := by decide

/-- The filter on an age that no database can store. -/
def agedBeyond : PropertyFilter where
  matchType := .eq
  propertyType := .integer
  names := ["age"]
  value := .int 9223372036854775808
  names_ne_nil := by decide

/-- Both filters are read from a request, and both calls fail without a report: one while the
statement is built, the other while it is sent. -/
theorem filterCall_fails_oneUser :
    PropertyFilter.parse "GT_B_age" (some "true") = .ok olderThanTrue ∧
      PropertyFilter.parse "EQ_I_age" (some "9223372036854775808") = .ok agedBeyond ∧
      FilterCall.rows.outcome "User" [olderThanTrue] oneUser = .error (.engine .argument) ∧
      (FilterCall.page unknownOrder).outcome "User" [agedBeyond] oneUser = .error .overflow := by
  have htruth : PropertyFilter.parse "GT_B_age" (some "true") = .ok olderThanTrue := rfl
  have hlarge : PropertyFilter.parse "EQ_I_age" (some "9223372036854775808") = .ok agedBeyond :=
    rfl
  have hread : ∀ f ∈ [olderThanTrue], ∃ spec raw, PropertyFilter.parse spec raw = .ok f := by
    rw [List.forall_mem_singleton]
    exact ⟨_, _, htruth⟩
  have hread' : ∀ f ∈ [agedBeyond], ∃ spec raw, PropertyFilter.parse spec raw = .ok f := by
    rw [List.forall_mem_singleton]
    exact ⟨_, _, hlarge⟩
  refine ⟨htruth, hlarge, ?_, ?_⟩
  · obtain ⟨-, -, -, hargument, -⟩ := @filterCall_fails "User" _ hread oneUser _ rfl .rows
    refine hargument.2 ⟨?_, trivial, rfl⟩
    rintro ⟨f, hf, hlike, -⟩
    rw [List.mem_singleton.1 hf] at hlike
    cases hlike
  · obtain ⟨-, -, -, -, hoverflow⟩ :=
      @filterCall_fails "User" _ hread' oneUser _ rfl (.page unknownOrder)
    refine hoverflow.2
      ⟨?_, ⟨by decide, fun hsorts => hsorts.2.2 rfl⟩, _, rfl, .inl ⟨rfl, ?_, ?_⟩⟩
    · rintro ⟨f, hf, hlike, -⟩
      rw [List.mem_singleton.1 hf] at hlike
      cases hlike
    · exact ⟨_, rfl, rfl, rfl, rfl⟩
    · exact ⟨agedBeyond, List.mem_singleton_self _, _, rfl, by decide⟩

/-- The age of the only user is asked to be greater than a truth value, and no report of the
package says what was wrong. -/
theorem findByFilters_truthOrder_unreported :
    PropertyFilter.parse "GT_B_age" (some "true") = .ok olderThanTrue ∧
      ((findByFilters ⟨backend, "User"⟩ [olderThanTrue]).run oneUser).1 =
        .error (.engine .argument) :=
  ⟨rfl, rfl⟩

end Relational
end PagedQuery
