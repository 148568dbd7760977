import Mathlib.Data.List.Forall2
import Mathlib.Data.List.Infix
import PagedQuery.Filter.Spec
import PagedQuery.Proofs.Matching

/-!
# What filters mean

A row passes a filter when one of the named properties is there and stands to the
value of the filter as its match type says.  The filters of a request must all be
passed.  This meaning does not mention predicates; the rows that are found are
those that pass, whatever way the filters take through the predicates.

Main results:

- Theorem `parse_reads`: a filter that was read says what its text says.
- Theorem `holdsAll_passes`: the predicates of filters hold when all are passed.
- Theorem `findByFilters_sound`: only rows that pass are found, and all of them.
- Theorem `findByFilters_passes`: filters of a request find the rows that pass them,
  in whatever order filters and names are written.
-/

namespace PagedQuery

open Text

/-! ## Reading filters -/

namespace PropertyFilter

/-- What is known of a filter that was read from a text and the text of its value. -/
structure Reads (pair : String × Option String) (f : PropertyFilter) : Prop where
  /-- Written out again, the filter is the text that it was read from. -/
  text : f.spec = pair.1
  /-- No name is empty. -/
  named : ∀ name ∈ f.names, name ≠ ""
  /-- The value is what the text of the value stands for. -/
  value : ∃ raw, pair.2 = some raw ∧ f.propertyType.coerce raw = .ok f.value

/-- Something stands behind a mark only when the mark is there. -/
theorem mem_of_cutAt {mark : Char} {cs : List Char} (h : (cutAt mark cs).2 ≠ []) :
    mark ∈ cs := by
  induction cs with
  | nil => exact absurd rfl h
  | cons c cs ih =>
      by_cases hc : c = mark
      · rw [hc]
        exact List.mem_cons_self
      · have hne : (c == mark) = false := by simpa using hc
        simp only [cutAt, hne, Bool.false_eq_true, if_false] at h
        exact List.mem_cons_of_mem c (ih h)

/-- A match type is found under its own name only. -/
theorem matchType_name {token : String} {m : MatchType} (h : MatchType.ofName? token = some m) :
    m.name = token := by
  have hfound := List.find?_some h
  simpa using hfound

/-- A property type is found under its own letter only. -/
theorem propertyType_letter {token : String} {t : PropertyType}
    (h : PropertyType.ofLetter? token = some t) : t.letter = token := by
  have hfound := List.find?_some h
  simpa using hfound

/-- A value that was read is what its text stands for. -/
theorem readValue_ok {spec : String} {t : PropertyType} {raw : Option String} {value : Value}
    (h : readValue spec t raw = .ok value) :
    ∃ text, raw = some text ∧ t.coerce text = .ok value := by
  cases raw with
  | none => simp [readValue] at h
  | some text =>
      refine ⟨text, rfl, ?_⟩
      simp only [readValue] at h
      split at h
      · rename_i found hfound
        rw [hfound]
        simpa using h
      · simp at h

/-- The parts of the text of a filter that was read are those of the filter. -/
theorem parse_ok {spec : String} {raw : Option String} {f : PropertyFilter}
    (h : parse spec raw = .ok f) :
    let parts := cutAt '_' spec.toList
    let ends := cutAt '_' parts.2
    MatchType.ofName? (.ofList parts.1) = some f.matchType ∧
      PropertyType.ofLetter? (.ofList ends.1) = some f.propertyType ∧
      f.names = (splitNames ends.2).map String.ofList ∧
      (∀ piece ∈ splitNames ends.2, piece ≠ []) ∧
      readValue spec f.propertyType raw = .ok f.value := by
  intro parts ends
  simp only [parse] at h
  split at h
  · simp at h
  · rename_i m hm
    split at h
    · simp at h
    · rename_i t ht
      split at h
      · simp at h
      · rename_i hnames
        split at h
        · simp at h
        · rename_i value hvalue
          simp only [Except.ok.injEq] at h
          subst h
          refine ⟨hm, ht, rfl, ?_, hvalue⟩
          intro piece hpiece hnil
          exact hnames (List.any_eq_true.2 ⟨piece, hpiece, by simp [hnil]⟩)

/-- A text with a name at its end consists of its three parts. -/
theorem parts_of_names {cs : List Char}
    (h : ∀ piece ∈ splitNames (cutAt '_' (cutAt '_' cs).2).2, piece ≠ []) :
    cs = (cutAt '_' cs).1 ++
      '_' :: ((cutAt '_' (cutAt '_' cs).2).1 ++ '_' :: (cutAt '_' (cutAt '_' cs).2).2) := by
  -- Both low lines are there, or else the letter or the only name would be empty.
  have hsecond : '_' ∈ (cutAt '_' cs).2 := by
    apply mem_of_cutAt
    intro hnil
    exact h [] (by simp [hnil, splitNames]) rfl
  have hfirst : '_' ∈ cs := by
    apply mem_of_cutAt
    exact List.ne_nil_of_mem hsecond
  rw [before_append_after hsecond, before_append_after hfirst]

/-- The names that were read, joined as texts, are the text that they were read from. -/
theorem joinTexts_splitNames (cs : List Char) :
    (joinTexts "_OR_" ((splitNames cs).map String.ofList)).toList = cs := by
  have hpieces : String.toList ∘ String.ofList = id := by
    funext piece
    exact String.toList_ofList
  rw [toList_joinTexts, List.map_map, hpieces, List.map_id]
  exact joinNames_splitNames cs

/-- A filter that was read says what its text says. -/
theorem parse_reads {spec : String} {raw : Option String} {f : PropertyFilter}
    (h : parse spec raw = .ok f) : Reads (spec, raw) f := by
  obtain ⟨hmatch, htype, hnames, hnonempty, hvalue⟩ := parse_ok h
  constructor
  · apply String.toList_injective
    change (f.matchType.name ++ "_" ++ f.propertyType.letter ++ "_" ++
      joinTexts "_OR_" f.names).toList = spec.toList
    rw [hnames, matchType_name hmatch, propertyType_letter htype, String.toList_append,
      joinTexts_splitNames]
    conv_rhs => rw [parts_of_names hnonempty]
    simp
  · intro name hname hempty
    rw [hnames] at hname
    rcases List.mem_map.1 hname with ⟨piece, hpiece, rfl⟩
    apply hnonempty piece hpiece
    simpa using congrArg String.toList hempty
  · exact readValue_ok hvalue

end PropertyFilter

/-! ## The meaning of filters -/

/-- A property that is there stands to the value of a filter as a match type says. -/
def MatchType.relates (m : MatchType) (actual expected : Value) : Bool :=
  match m with
  | eq => actual.agree expected
  | ne => !actual.agree expected
  | gt => actual.standing expected == .more
  | ge => actual.standing expected == .more || actual.standing expected == .same
  | lt => actual.standing expected == .less
  | le => actual.standing expected == .less || actual.standing expected == .same
  | like =>
      match actual, expected with
      | .text hay, .text needle => decide (needle.toList <:+: hay.toList)
      | _, _ => false

namespace PropertyFilter

/-- One of the named properties of the row is there and stands to the value of the
filter as its match type says. -/
def passes (f : PropertyFilter) (row : Value) : Bool :=
  f.names.any fun name =>
    !(row.property name).isNull && f.matchType.relates (row.property name) f.value

/-- The comparison of one property that a filter makes. -/
def comparison (f : PropertyFilter) (name : String) : Predicate :=
  .compare name f.matchType.operator f.value

end PropertyFilter

/-- An answered question of order tells how the values stand. -/
theorem orderAnswer_ok {question : Ordered} {actual expected : Value} {met : Bool}
    (h : orderAnswer question actual expected = .ok met) :
    (actual.standing expected).answers? question = some met := by
  unfold orderAnswer at h
  split at h
  · rename_i hanswer
    rw [hanswer]
    simpa using h
  · simp at h

/-- What the answer to a question of order says. -/
theorem answers_meaning {s : Standing} {question : Ordered} {met : Bool}
    (h : s.answers? question = some met) :
    met = match question with
      | .less => s == .less
      | .atMost => s == .less || s == .same
      | .more => s == .more
      | .atLeast => s == .more || s == .same := by
  revert h
  cases s <;> cases question <;> cases met <;> decide

/-- An operator that compares gives the relation of its match type. -/
theorem compare_relates {m : MatchType} {actual expected : Value} {met : Bool}
    (h : m.operator.compare actual expected = .ok met) : met = m.relates actual expected := by
  cases m with
  | eq => simpa [MatchType.operator, Operator.compare, MatchType.relates] using h.symm
  | ne => simpa [MatchType.operator, Operator.compare, MatchType.relates] using h.symm
  | gt => exact answers_meaning (orderAnswer_ok h)
  | ge => exact answers_meaning (orderAnswer_ok h)
  | lt => exact answers_meaning (orderAnswer_ok h)
  | le => exact answers_meaning (orderAnswer_ok h)
  | like =>
      simp only [MatchType.operator, Operator.compare] at h
      split at h
      · rename_i hay needle
        simp only [Except.ok.injEq] at h
        subst h
        rw [MatchType.relates, Bool.eq_iff_iff, occurs_iff, decide_eq_true_iff]
        constructor
        · rintro ⟨before, after, heq⟩
          exact ⟨before, after, heq.symm⟩
        · rintro ⟨before, after, heq⟩
          exact ⟨before, after, heq.symm⟩
      · simp at h
      · rename_i hnot hboth
        simp only [Except.ok.injEq] at h
        subst h
        rw [MatchType.relates]
        exact hboth

/-! ## Filters as predicates -/

namespace PropertyFilter

/-- A comparison that a filter makes holds when its property is there and stands to
the value as wanted. -/
theorem comparison_relates {f : PropertyFilter} {name : String} {row : Value} {met : Bool}
    (h : (f.comparison name).holds row = .ok met) :
    met = (!(row.property name).isNull && f.matchType.relates (row.property name) f.value) := by
  rw [comparison, Predicate.holds_compare] at h
  cases hnull : (row.property name).isNull with
  | true => simpa [hnull] using h.symm
  | false =>
      rw [hnull, if_neg Bool.false_ne_true] at h
      rw [← compare_relates h]
      rfl

/-- Several comparisons are joined by a disjunction, which holds when one of the
properties is there and stands to the value as wanted. -/
theorem holdsAny_comparisons {f : PropertyFilter} {names : List String} {row : Value}
    {met : Bool} (h : Predicate.holdsAny (names.map f.comparison) row = .ok met) :
    met = names.any fun name =>
      !(row.property name).isNull && f.matchType.relates (row.property name) f.value := by
  induction names with
  | nil => simpa [Predicate.holdsAny] using h.symm
  | cons name names ih =>
      rw [List.map_cons, Predicate.holdsAny] at h
      rw [List.any_cons]
      split at h
      · rename_i hfirst
        rw [← comparison_relates hfirst]
        simpa using h.symm
      · rename_i hfirst
        rw [← comparison_relates hfirst, ← ih h]
        rfl
      · simp at h

/-- Only a text can be looked for inside a property. -/
def IsSound (f : PropertyFilter) : Prop := f.matchType = .like → f.value.isText = true

/-- The criterion of one property is its comparison. -/
theorem criterion_comparison {f : PropertyFilter} (hsound : f.IsSound) (name : String) :
    criterion name f.value f.matchType = .ok (f.comparison name) := by
  have hlike : (f.matchType == .like && !f.value.isText) = false := by
    by_cases hm : f.matchType = .like
    · simp [hsound hm]
    · simp [hm]
  simp only [criterion, hlike, Bool.false_eq_true, if_false, comparison]

/-- The criteria of several properties are their comparisons. -/
theorem criteria_comparisons {f : PropertyFilter} (hsound : f.IsSound) (names : List String) :
    criteria f.value f.matchType names = .ok (names.map f.comparison) := by
  induction names with
  | nil => rfl
  | cons name names ih =>
      simp only [criteria, criterion_comparison hsound, ih, List.map_cons]

/-- A filter as one predicate: its comparison, or the disjunction of several. -/
def joined (f : PropertyFilter) : Predicate :=
  match f.names with
  | [name] => f.comparison name
  | names => .any (names.map f.comparison)

/-- The predicate of a filter joins its comparisons. -/
theorem predicate_joined {f : PropertyFilter} (hsound : f.IsSound) :
    f.predicate = .ok f.joined := by
  rcases hnames : f.names with _ | ⟨name, _ | ⟨next, rest⟩⟩
  · exact absurd hnames f.names_ne_nil
  · simp only [predicate, joined, hnames]
    exact criterion_comparison hsound name
  · simp only [predicate, joined, hnames, criteria_comparisons hsound]
    rfl

/-- A criterion looks for nothing but a text inside a property. -/
theorem isSound_of_criterion {f : PropertyFilter} {name : String} {p : Predicate}
    (h : criterion name f.value f.matchType = .ok p) : f.IsSound := by
  intro hlike
  rw [criterion] at h
  split at h
  · simp at h
  · rename_i hnot
    simpa [hlike] using hnot

/-- A filter with a predicate looks for nothing but texts inside properties. -/
theorem isSound_of_predicate {f : PropertyFilter} {p : Predicate} (h : f.predicate = .ok p) :
    f.IsSound := by
  rcases hnames : f.names with _ | ⟨name, _ | ⟨next, rest⟩⟩
  · exact absurd hnames f.names_ne_nil
  · simp only [predicate, hnames] at h
    exact isSound_of_criterion h
  · simp only [predicate, hnames] at h
    rw [criteria] at h
    split at h
    · simp [Except.map] at h
    · rename_i hfirst
      exact isSound_of_criterion hfirst

/-- The predicate of a filter holds when the filter is passed. -/
theorem joined_passes {f : PropertyFilter} {row : Value} {met : Bool}
    (h : f.joined.holds row = .ok met) : met = f.passes row := by
  rw [joined] at h
  rw [passes]
  split at h
  · rename_i name hnames
    rw [hnames, List.any_cons, List.any_nil, Bool.or_false]
    exact comparison_relates h
  · rw [Predicate.holds] at h
    exact holdsAny_comparisons h

/-- A filter can be evaluated on a row when each of its comparisons can. -/
theorem joined_evaluates {f : PropertyFilter} {row : Value}
    (h : ∀ name ∈ f.names, ∃ met, (f.comparison name).holds row = .ok met) :
    ∃ met, f.joined.holds row = .ok met := by
  rw [joined]
  split
  · rename_i name hnames
    exact h name (by simp [hnames])
  · rw [Predicate.holds]
    apply Predicate.holdsAny_of_each
    intro p hp
    rcases List.mem_map.1 hp with ⟨name, hname, rfl⟩
    exact h name hname

end PropertyFilter

open PropertyFilter

/-- Filters that look for nothing but texts inside properties become one predicate
each. -/
theorem predicatesOf_joined {fs : List PropertyFilter} (h : ∀ f ∈ fs, f.IsSound) :
    predicatesOf fs = .ok (fs.map joined) := by
  induction fs with
  | nil => rfl
  | cons f fs ih =>
      have hrest := ih fun other hother => h other (by simp [hother])
      simp only [predicatesOf, predicate_joined (h f (by simp)), hrest, List.map_cons]

/-- Filters with predicates look for nothing but texts inside properties. -/
theorem isSound_of_predicatesOf {fs : List PropertyFilter} {ps : List Predicate}
    (h : predicatesOf fs = .ok ps) : ∀ f ∈ fs, f.IsSound := by
  induction fs generalizing ps with
  | nil => exact List.forall_mem_nil _
  | cons f fs ih =>
      simp only [predicatesOf] at h
      split at h
      · simp at h
      · rename_i p hp
        split at h
        · simp at h
        · rename_i rest hrest
          exact List.forall_mem_cons.2 ⟨isSound_of_predicate hp, ih hrest⟩

/-- The predicates of filters hold together when all filters are passed. -/
theorem holdsAll_passes {fs : List PropertyFilter} {row : Value} {met : Bool}
    (h : Predicate.holdsAll (fs.map joined) row = .ok met) : met = fs.all (·.passes row) := by
  induction fs with
  | nil => simpa [Predicate.holdsAll] using h.symm
  | cons f fs ih =>
      rw [List.map_cons, Predicate.holdsAll] at h
      rw [List.all_cons]
      split at h
      · rename_i hfirst
        rw [← joined_passes hfirst, ← ih h]
        rfl
      · rename_i hfirst
        rw [← joined_passes hfirst]
        simpa using h.symm
      · simp at h

/-! ## Rows that pass -/

/-- The rows that pass all filters, in their order. -/
def passing (fs : List PropertyFilter) (rows : List Value) : List Value :=
  rows.filter fun row => fs.all (·.passes row)

/-- Evaluating the filters on the rows, as far as one has to look, fails nowhere. -/
def Evaluate (fs : List PropertyFilter) (rows : List Value) : Prop :=
  ∀ ps, predicatesOf fs = .ok ps → ∀ row ∈ rows, Predicate.EvaluatesAll ps row

/-- Every comparison of the filters is defined on every row. -/
def Compare (fs : List PropertyFilter) (rows : List Value) : Prop :=
  ∀ f ∈ fs, ∀ name ∈ f.names, ∀ row ∈ rows, ∃ met, (f.comparison name).holds row = .ok met

/-- Looking for a text is defined on every value. -/
theorem contains_defined (actual : Value) (needle : String) :
    ∃ met, Operator.contains.compare actual (.text needle) = .ok met := by
  cases actual <;> exact ⟨_, rfl⟩

/-- Asking for a value, for another value or for a part of a text is defined on every
row. -/
theorem comparison_defined {f : PropertyFilter} (hsound : f.IsSound)
    (hunordered : f.matchType = .eq ∨ f.matchType = .ne ∨ f.matchType = .like)
    (name : String) (row : Value) : ∃ met, (f.comparison name).holds row = .ok met := by
  rw [comparison, Predicate.holds]
  split
  · exact ⟨false, rfl⟩
  · rcases hunordered with hm | hm | hm
    · exact ⟨_, by rw [hm]; rfl⟩
    · exact ⟨_, by rw [hm]; rfl⟩
    · have htext := hsound hm
      cases hv : f.value <;> simp [hv, Value.isText] at htext
      rw [hm]
      exact contains_defined _ _

/-- Where every comparison is defined, the filters can be evaluated. -/
theorem Compare.evaluate {fs : List PropertyFilter} {rows : List Value} (h : Compare fs rows) :
    Evaluate fs rows := by
  intro ps hps row hrow
  have hjoined := predicatesOf_joined (isSound_of_predicatesOf hps)
  rw [hps, Except.ok.injEq] at hjoined
  subst hjoined
  apply Predicate.evaluatesAll_of_each
  intro p hp
  rcases List.mem_map.1 hp with ⟨f, hf, rfl⟩
  apply joined_evaluates
  intro name hname
  exact h f hf name hname row hrow

/-- Two filters ask for the same: they differ at most in the order and the number in
which they name their properties. -/
def SameFilter (f g : PropertyFilter) : Prop :=
  f.matchType = g.matchType ∧ f.value = g.value ∧ ∀ name, name ∈ f.names ↔ name ∈ g.names

/-- Two lists of filters ask for the same: they differ at most in the order and the
number of filters that ask for the same. -/
def SameFilters (fs gs : List PropertyFilter) : Prop :=
  (∀ f ∈ fs, ∃ g ∈ gs, SameFilter f g) ∧ ∀ g ∈ gs, ∃ f ∈ fs, SameFilter f g

/-- Filters that ask for the same are passed by the same rows. -/
theorem SameFilter.passes {f g : PropertyFilter} (h : SameFilter f g) (row : Value) :
    f.passes row = g.passes row := by
  obtain ⟨hmatch, hvalue, hnames⟩ := h
  rw [Bool.eq_iff_iff, PropertyFilter.passes, PropertyFilter.passes, List.any_eq_true,
    List.any_eq_true, hmatch, hvalue]
  constructor
  · rintro ⟨name, hname, hmet⟩
    exact ⟨name, (hnames name).1 hname, hmet⟩
  · rintro ⟨name, hname, hmet⟩
    exact ⟨name, (hnames name).2 hname, hmet⟩

/-- Filters in another order ask for the same. -/
theorem SameFilters.of_perm {fs gs : List PropertyFilter} (h : fs.Perm gs) :
    SameFilters fs gs := by
  constructor
  · intro f hf
    exact ⟨f, h.mem_iff.1 hf, rfl, rfl, fun _ => Iff.rfl⟩
  · intro g hg
    exact ⟨g, h.mem_iff.2 hg, rfl, rfl, fun _ => Iff.rfl⟩

/-- Lists of filters that ask for the same are passed by the same rows. -/
theorem SameFilters.passing {fs gs : List PropertyFilter} (h : SameFilters fs gs)
    (rows : List Value) : passing fs rows = passing gs rows := by
  apply List.filter_congr
  intro row _
  rw [Bool.eq_iff_iff, List.all_eq_true, List.all_eq_true]
  constructor
  · intro hpass g hg
    obtain ⟨f, hf, hsame⟩ := h.2 g hg
    rw [← hsame.passes]
    exact hpass f hf
  · intro hpass f hf
    obtain ⟨g, hg, hsame⟩ := h.1 f hf
    rw [hsame.passes]
    exact hpass g hg

/-- Comparisons that are defined for one list of filters are defined for another that
asks for the same. -/
theorem SameFilters.compare {fs gs : List PropertyFilter} (h : SameFilters fs gs)
    {rows : List Value} (hdefined : Compare fs rows) : Compare gs rows := by
  intro g hg name hname row hrow
  obtain ⟨f, hf, hmatch, hvalue, hnames⟩ := h.2 g hg
  have hcompared := hdefined f hf name ((hnames name).2 hname) row hrow
  rw [comparison, hmatch, hvalue] at hcompared
  exact hcompared

/-! ## Finding rows that pass -/

namespace Collection

variable {entity : String} {rows : List Value} {fs : List PropertyFilter} {w : World Store}

/-- Finding rows by filters looks for the rows that match their predicates. -/
theorem findByFilters_matching (hrows : w.store.rows? entity = some rows) :
    ((Repository.findByFilters ⟨backend, entity⟩ fs).run w).1 =
      (predicatesOf fs).bind fun ps => matching ps rows := by
  rw [Repository.findByFilters, Action.run_bind, Action.run_ofExcept]
  cases predicatesOf fs with
  | error failure => rfl
  | ok ps => exact find_matching hrows

/-- The rows that match the predicates of filters are those that pass the filters. -/
theorem matching_passing {ps : List Predicate} (hps : predicatesOf fs = .ok ps)
    (heval : ∀ row ∈ rows, Predicate.EvaluatesAll ps row) :
    matching ps rows = .ok (passing fs rows) := by
  have hjoined := predicatesOf_joined (isSound_of_predicatesOf hps)
  rw [hps, Except.ok.injEq] at hjoined
  rw [matching_filter heval, passing, Predicate.select, Except.ok.injEq]
  apply List.filter_congr
  intro row hrow
  obtain ⟨met, hmet⟩ := heval row hrow
  rw [← Predicate.holdsAll_isMet hmet]
  exact holdsAll_passes (hjoined ▸ hmet)

/-- Only rows that pass the filters are found, and all of them, in their order. -/
theorem findByFilters_sound (hrows : w.store.rows? entity = some rows) {found : List Value}
    (h : ((Repository.findByFilters ⟨backend, entity⟩ fs).run w).1 = .ok found) :
    found = passing fs rows := by
  rw [findByFilters_matching hrows] at h
  cases hps : predicatesOf fs with
  | error failure => simp [hps, Except.bind] at h
  | ok ps =>
      rw [hps] at h
      have hmatched : matching ps rows = .ok found := h
      rw [matching_passing hps (evaluatesAll_of_matching hmatched)] at hmatched
      exact (Except.ok.inj hmatched).symm

/-- Filters that can be evaluated find the rows that pass them. -/
theorem findByFilters_complete (hrows : w.store.rows? entity = some rows)
    (hsound : ∀ f ∈ fs, f.IsSound) (heval : Evaluate fs rows) :
    ((Repository.findByFilters ⟨backend, entity⟩ fs).run w).1 = .ok (passing fs rows) := by
  have hps := predicatesOf_joined hsound
  rw [findByFilters_matching hrows, hps]
  exact matching_passing hps (heval _ hps)

/-- Filters of a request find the rows that pass them, in the order in which the rows
are stored.  The predicates of the filters, joined by a conjunction, hold of these rows
and of no others.  Other filters that ask for the same find the same rows, and when a
filter is added, some of the rows are found. -/
theorem findByFilters_passes {pairs : List (String × Option String)}
    (hparse : List.Forall₂ (fun pair f => PropertyFilter.parse pair.1 pair.2 = .ok f) pairs fs)
    (hsound : ∀ f ∈ fs, f.IsSound) (hrows : w.store.rows? entity = some rows)
    (heval : Evaluate fs rows) :
    List.Forall₂ PropertyFilter.Reads pairs fs ∧
      ((Repository.findByFilters ⟨backend, entity⟩ fs).run w).1 = .ok (passing fs rows) ∧
      (∃ ps, predicatesOf fs = .ok ps ∧
        ∀ row ∈ rows, (Predicate.all ps).holds row = .ok (fs.all (·.passes row))) ∧
      (∀ gs, SameFilters fs gs → Evaluate gs rows ∨ Compare fs rows →
        ((Repository.findByFilters ⟨backend, entity⟩ gs).run w).1 = .ok (passing fs rows)) ∧
      ∀ g found, ((Repository.findByFilters ⟨backend, entity⟩ (fs ++ [g])).run w).1 = .ok found →
        found.Sublist (passing fs rows) := by
  refine ⟨?_, findByFilters_complete hrows hsound heval, ?_, ?_, ?_⟩
  · exact hparse.imp fun _ _ h => PropertyFilter.parse_reads h
  · have hps := predicatesOf_joined hsound
    refine ⟨fs.map joined, hps, ?_⟩
    intro row hrow
    obtain ⟨met, hmet⟩ := heval _ hps row hrow
    rw [Predicate.holds, hmet, holdsAll_passes hmet]
  · intro gs hsame hdefined
    have hsound' : ∀ g ∈ gs, g.IsSound := by
      intro g hg
      obtain ⟨f, hf, hmatch, hvalue, -⟩ := hsame.2 g hg
      have hlike := hsound f hf
      rw [PropertyFilter.IsSound, hmatch, hvalue] at hlike
      exact hlike
    have heval' : Evaluate gs rows := by
      rcases hdefined with heval' | hcompare
      · exact heval'
      · exact (hsame.compare hcompare).evaluate
    rw [findByFilters_complete hrows hsound' heval', hsame.passing]
  · intro g found hfound
    rw [findByFilters_sound hrows hfound]
    apply List.monotone_filter_right
    intro row hpass
    rw [List.all_append, Bool.and_eq_true] at hpass
    exact hpass.1

/-- Users with a status, a name and perhaps a login. -/
def knownUsers : List Value :=
  [.mapping [("status", .text "active"), ("name", .text "ann"), ("login", .text "joann")],
    .mapping [("status", .text "active"), ("name", .text "bob"), ("login", .null)],
    .mapping [("status", .text "gone"), ("name", .text "john")],
    .mapping [("status", .text "active"), ("name", .text "john")]]

/-- The filter on one status. -/
def isActive : PropertyFilter where
  matchType := .eq
  propertyType := .string
  names := ["status"]
  value := .text "active"
  names_ne_nil := by decide

/-- The filter on a part of the name or of the login. -/
def namedLike : PropertyFilter where
  matchType := .like
  propertyType := .string
  names := ["name", "login"]
  value := .text "jo"
  names_ne_nil := by decide

/-- The filters of a request find the active users with a part in the name or the
login, and so do they in another order. -/
theorem findByFilters_passes_users :
    List.Forall₂ (fun pair f => PropertyFilter.parse pair.1 pair.2 = .ok f)
        [("EQ_S_status", some "active"), ("LIKE_S_name_OR_login", some "jo")]
        [isActive, namedLike] ∧
      ((Repository.findByFilters ⟨backend, "users"⟩ [namedLike, isActive]).run
        ⟨{ collections := [("users", knownUsers)] }, []⟩).1 =
        .ok (passing [isActive, namedLike] knownUsers) := by
  have hparse : List.Forall₂ (fun pair f => PropertyFilter.parse pair.1 pair.2 = .ok f)
      [("EQ_S_status", some "active"), ("LIKE_S_name_OR_login", some "jo")]
      [isActive, namedLike] :=
    .cons rfl (.cons rfl .nil)
  have hactive : isActive.IsSound := fun h => nomatch h
  have hnamed : namedLike.IsSound := fun _ => rfl
  have hsound : ∀ f ∈ [isActive, namedLike], f.IsSound := by
    simp [hactive, hnamed]
  have hcompare : Compare [isActive, namedLike] knownUsers := by
    intro f hf name _ row _
    apply comparison_defined (hsound f hf)
    rcases List.mem_pair.1 hf with rfl | rfl
    · exact Or.inl rfl
    · exact Or.inr (Or.inr rfl)
  have hrows : ({ collections := [("users", knownUsers)] } : Store).rows? "users" =
      some knownUsers := rfl
  obtain ⟨-, -, -, hfind, -⟩ := findByFilters_passes
    (w := ⟨{ collections := [("users", knownUsers)] }, []⟩) hparse hsound hrows
      hcompare.evaluate
  exact ⟨hparse, hfind _ (SameFilters.of_perm (List.Perm.swap _ _ _)) (Or.inr hcompare)⟩

end Collection

end PagedQuery
