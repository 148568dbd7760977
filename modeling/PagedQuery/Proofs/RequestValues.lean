import PagedQuery.Filter.Request
import PagedQuery.Proofs.FilterRejections
import PagedQuery.Proofs.ReadingAll
import PagedQuery.Proofs.WrittenDates
import PagedQuery.Proofs.WrittenScalars

/-!
# Values that requests carry

An entry of a request carries a filter when its name starts with the agreed text and its value,
of a sequence the first item, is neither nothing nor blank as a text.  These entries are read in
order, as the name behind the agreed text says and from the value as a text; all others are
passed over.  A value that goes through its text in this way comes back as it was, when the
filter is of the value's own type.

Main results:

- Theorem `requestFilters_eq_mapM`: the filters of a request are those of the entries that carry
  one.
- Theorem `coerce_plain`: a value is read from its text.
- Theorem `requestFilters_exact`: which filters a request has, how it is rejected, and which
  values its filters have.
-/

namespace PagedQuery

open Numeric PropertyFilter Text

/-! ## Entries that carry filters -/

/-- The entry carries a filter. -/
structure CarriesFilter (start : String) (param : String × Value) : Prop where
  named : start.toList <+: param.1.toList
  given : (leadingItem param.2).isNull = false
  written : ∃ c ∈ (leadingItem param.2).plain.toList, isBlank c = false

/-- The filter of an entry: its text is the name behind the agreed text, and its value is that
of the entry, written as a text. -/
def entryFilter (start : String) (param : String × Value) : Except Rejection PropertyFilter :=
  parse (.ofList (param.1.toList.drop start.length)) (some (leadingItem param.2).plain)

section

variable {start : String} {param : String × Value} {params : List (String × Value)}

/-- Whether an entry carries a filter is told from its name and its value. -/
theorem carriesFilter_iff : CarriesFilter start param ↔
    start.toList.isPrefixOf param.1.toList = true ∧ (leadingItem param.2).isNull = false ∧
      (leadingItem param.2).plain.toList.any (!isBlank ·) = true := by
  simp only [List.isPrefixOf_iff_prefix, List.any_eq_true, Bool.not_eq_true']
  exact ⟨fun h => ⟨h.named, h.given, h.written⟩, fun h => ⟨h.1, h.2.1, h.2.2⟩⟩

instance : DecidablePred (CarriesFilter start) := fun _ => decidable_of_iff' _ carriesFilter_iff

/-- A text is blank exactly when all of its characters are. -/
theorem strip_eq_empty_iff {s : String} : strip s = "" ↔ ∀ c ∈ s.toList, isBlank c = true := by
  rw [← stripBoth_eq_nil_iff, ← String.toList_eq_nil_iff, strip, String.toList_ofList]
  rfl

/-- Only nothing is nothing. -/
theorem eq_null_of_isNull {v : Value} (h : v.isNull = true) : v = .null := by
  cases v with
  | null => rfl
  | _ => cases h

/-- A value that is given carries its text unless that is blank. -/
theorem requestText?_given {v : Value} (h : (leadingItem v).isNull = false) :
    requestText? v =
      if strip (leadingItem v).plain = "" then none else some (leadingItem v).plain := by
  rw [requestText?]
  split
  · rename_i hnull
    rw [hnull] at h
    cases h
  · simp only [beq_iff_eq]

/-- An entry that carries a filter is read as the text and the value of the filter. -/
theorem requestFilter?_of_carries (h : CarriesFilter start param) :
    requestFilter? start param =
      some (.ofList (param.1.toList.drop start.length), (leadingItem param.2).plain) := by
  have hname : start.toList.isPrefixOf param.1.toList = true := List.isPrefixOf_iff_prefix.2 h.named
  have htext : strip (leadingItem param.2).plain ≠ "" := by
    obtain ⟨c, hc, hkept⟩ := h.written
    intro hblank
    rw [strip_eq_empty_iff.1 hblank c hc] at hkept
    cases hkept
  rw [requestFilter?, if_pos hname, requestText?_given h.given, if_neg htext]
  rfl

/-- An entry that carries no filter is read as nothing. -/
theorem requestFilter?_of_not_carries (h : ¬CarriesFilter start param) :
    requestFilter? start param = none := by
  rw [requestFilter?]
  split
  · rename_i hname
    have hnamed := List.isPrefixOf_iff_prefix.1 hname
    rw [Option.map_eq_none_iff]
    cases hnull : (leadingItem param.2).isNull with
    | true =>
        rw [requestText?, eq_null_of_isNull hnull]
    | false =>
        have hblank : strip (leadingItem param.2).plain = "" := by
          rw [strip_eq_empty_iff]
          intro c hc
          by_contra hkept
          exact h ⟨hnamed, hnull, c, hc, Bool.eq_false_iff.2 hkept⟩
        rw [requestText?_given hnull, if_pos hblank]
  · rfl

/-- The filters of a request are those of the entries that carry one, in their order. -/
theorem requestFilters_eq_mapM (start : String) (params : List (String × Value)) :
    requestFilters start params =
      (params.filter (CarriesFilter start ·)).mapM (entryFilter start) := by
  induction params with
  | nil => rfl
  | cons param params ih =>
      by_cases h : CarriesFilter start param
      · have hread := requestFilter?_of_carries h
        have hkept : (param :: params).filter (CarriesFilter start ·) =
            param :: params.filter (CarriesFilter start ·) :=
          List.filter_cons_of_pos (decide_eq_true h)
        rw [hkept, mapM_cons_eq, ← ih]
        simp only [requestFilters, hread, entryFilter]
        split
        · rename_i hfilter
          rw [hfilter]
          rfl
        · rename_i hfilter
          rw [hfilter]
          cases requestFilters start params <;> rfl
      · have hdropped : (param :: params).filter (CarriesFilter start ·) =
            params.filter (CarriesFilter start ·) :=
          List.filter_cons_of_neg fun hcarries => h (of_decide_eq_true hcarries)
        rw [hdropped, requestFilters_skip (requestFilter?_of_not_carries h), ih]

end

/-! ## Values and their texts -/

/-- A value of the kind that a property type reads: any truth value or text, a whole number
unless its numeral is too long, and a date that has no parts of a second and no offset. -/
inductive IsWritten : PropertyType → Value → Prop
  | bool (b : Bool) : IsWritten .boolean (.bool b)
  | integer {n : Int} (h : (decimalDigits n.natAbs).length ≤ Coercion.digitLimit) :
      IsWritten .integer (.int n)
  | long {n : Int} (h : (decimalDigits n.natAbs).length ≤ Coercion.digitLimit) :
      IsWritten .long (.int n)
  | text (s : String) : IsWritten .string (.text s)
  | date {d : Calendar.DateTime} (h : d.isValid = true) (hplain : d.IsPlain) :
      IsWritten .date (.date d)

/-- A value is read from its text. -/
theorem coerce_plain {t : PropertyType} {v : Value} (h : IsWritten t v) :
    t.coerce v.plain = .ok v := by
  cases h with
  | bool b =>
      rw [PropertyType.coerce, Coercion.readBool_plain]
      rfl
  | @integer n hdigits | @long n hdigits =>
      have hplain : (Value.int n).plain = intText n := rfl
      rw [PropertyType.coerce, hplain, Coercion.readInt_intText hdigits]
      rfl
  | text s => rfl
  | @date d hvalid hplain =>
      have htext : (Value.date d).plain = d.text := rfl
      simp only [PropertyType.coerce, htext, Calendar.read?_text hvalid hplain]

/-- The filter of an entry whose name is the agreed text and then that of a filter has the types
and the names that are named there, and the value of the entry. -/
theorem entryFilter_of_written {start spec : String} {v : Value} {m : MatchType}
    {t : PropertyType} {pieces : List (List Char)} (htyped : Typed spec m t)
    (hnamed : Named spec pieces) (hwritten : IsWritten t (leadingItem v)) :
    ∃ f, entryFilter start (start ++ spec, v) = .ok f ∧ f.matchType = m ∧ f.propertyType = t ∧
      f.names = pieces.map .ofList ∧ f.value = leadingItem v := by
  have hspec : String.ofList ((start ++ spec).toList.drop start.length) = spec := by
    rw [String.toList_append, ← String.length_toList, List.drop_left, String.ofList_toList]
  refine ⟨⟨m, t, pieces.map .ofList, leadingItem v, by simpa using hnamed.splits.some_piece⟩,
    ?_, rfl, rfl, rfl, rfl⟩
  rw [entryFilter, hspec]
  exact parse_of_accepts ⟨htyped, by rwa [map_toList_ofList], _, rfl, coerce_plain hwritten⟩

/-! ## Requests -/

/-- The filters of a request are exactly those of the entries that carry one, in their order,
when all of these can be read.  Otherwise the request is rejected as the first of them that
cannot be read is, by the report of a text that is no filter.  Entries that carry no filter
change neither.  And a filter that is named behind the agreed text has the value of its entry,
when this is of the kind that the filter's type reads. -/
theorem requestFilters_exact (start : String) (params : List (String × Value)) :
    (∀ fs, requestFilters start params = .ok fs ↔
      List.Forall₂ (fun param f => entryFilter start param = .ok f)
        (params.filter (CarriesFilter start ·)) fs) ∧
    (∀ r, requestFilters start params = .error r ↔
      ∃ before param after,
        params.filter (CarriesFilter start ·) = before ++ param :: after ∧
        (∀ other ∈ before, ∃ f, entryFilter start other = .ok f) ∧
        entryFilter start param = .error r) ∧
    (∀ r, ∃ report, Rejection.failure r = .report report ∧
      report.kind = .filterParse r.spec r.token ∧ report.code = r.code) ∧
    (∀ others, others.filter (CarriesFilter start ·) = params.filter (CarriesFilter start ·) →
      requestFilters start others = requestFilters start params) ∧
    ∀ spec v m t pieces, (start ++ spec, v) ∈ params → CarriesFilter start (start ++ spec, v) →
      Typed spec m t → Named spec pieces → IsWritten t (leadingItem v) →
      ∃ f, entryFilter start (start ++ spec, v) = .ok f ∧ f.matchType = m ∧
        f.propertyType = t ∧ f.names = pieces.map .ofList ∧ f.value = leadingItem v := by
  rw [requestFilters_eq_mapM]
  refine ⟨fun fs => mapM_eq_ok_iff, fun r => mapM_eq_error_iff, ?_, ?_, ?_⟩
  · intro r
    obtain ⟨report, hreport, hkind, hcode, -⟩ := failure_report r
    exact ⟨report, hreport, hkind, hcode⟩
  · intro others hothers
    rw [requestFilters_eq_mapM, hothers]
  · intro spec v m t pieces _ _ htyped hnamed hwritten
    exact entryFilter_of_written htyped hnamed hwritten

/-- A second of a leap day. -/
def leapDay : Calendar.DateTime := ⟨996, 2, 29, 0, 0, 5, 0, none⟩

/-- A request for a further page of persons of some age, born since some second; the name that
they should be like is left blank. -/
def personsRequest : List (String × Value) :=
  [("page", .int 2), ("filter_EQ_I_age", .list [.int (-41), .null]),
    ("filter_LIKE_S_name", .text "  "), ("filter_GE_D_born", .date leapDay)]

theorem requestFilters_exact_persons : ∃ age born,
    requestFilters "filter_" personsRequest = .ok [age, born] ∧ age.value = .int (-41) ∧
      born.value = .date leapDay := by
  obtain ⟨hfilters, -, -, -, hvalues⟩ := requestFilters_exact "filter_" personsRequest
  have hage : CarriesFilter "filter_" ("filter_EQ_I_age", .list [.int (-41), .null]) := by
    decide +kernel
  have hborn : CarriesFilter "filter_" ("filter_GE_D_born", .date leapDay) := by
    decide +kernel
  have hcarried : personsRequest.filter (CarriesFilter "filter_" ·) =
      [("filter_EQ_I_age", .list [.int (-41), .null]),
        ("filter_GE_D_born", .date leapDay)] := by
    have hpage : ¬CarriesFilter "filter_" ("page", .int 2) := by decide +kernel
    have hname : ¬CarriesFilter "filter_" ("filter_LIKE_S_name", .text "  ") := by
      decide +kernel
    simp only [personsRequest, List.filter, hpage, hage, hname, hborn, decide_true, decide_false]
  obtain ⟨age, hread, -, -, -, hvalue⟩ := hvalues "EQ_I_age" (.list [.int (-41), .null]) .eq
    .integer ["age".toList] (List.mem_cons_of_mem _ List.mem_cons_self) hage
    ⟨by decide +kernel, by decide +kernel⟩
    ⟨splitNames_eq_iff.1 (by decide +kernel), by decide +kernel⟩ (.integer (by decide +kernel))
  obtain ⟨born, hread', -, -, -, hvalue'⟩ := hvalues "GE_D_born" (.date leapDay) .ge
    .date ["born".toList] (by simp [personsRequest]) hborn ⟨by decide +kernel, by decide +kernel⟩
    ⟨splitNames_eq_iff.1 (by decide +kernel), by decide +kernel⟩ (.date (by decide) ⟨rfl, rfl⟩)
  refine ⟨age, born, (hfilters _).2 ?_, hvalue, hvalue'⟩
  rw [hcarried]
  exact .cons hread (.cons hread' .nil)

/-- A date that knows its offset, to the second. -/
def newYearUtc : Calendar.DateTime := ⟨2024, 1, 1, 0, 0, 0, 0, some 0⟩

/-- A date that knows its offset cannot be read from its text, so that a request with it is
rejected. -/
theorem requestFilters_offset_rejected :
    newYearUtc.isValid = true ∧ newYearUtc.microsecond = 0 ∧
      CarriesFilter "filter_" ("filter_EQ_D_at", .date newYearUtc) ∧
      Typed "EQ_D_at" .eq .date ∧ Named "EQ_D_at" ["at".toList] ∧
      ∃ r, requestFilters "filter_" [("filter_EQ_D_at", .date newYearUtc)] = .error r := by
  refine ⟨by decide, rfl, by decide +kernel, ⟨by decide +kernel, by decide +kernel⟩,
    ⟨splitNames_eq_iff.1 (by decide +kernel), by decide +kernel⟩, ?_⟩
  have hrefused : (requestFilters "filter_" [("filter_EQ_D_at", .date newYearUtc)]).isOk =
      false := by decide +kernel
  cases hfilters : requestFilters "filter_" [("filter_EQ_D_at", .date newYearUtc)] with
  | ok filters =>
      rw [hfilters] at hrefused
      exact Bool.noConfusion hrefused
  | error rejection => exact ⟨rejection, rfl⟩

end PagedQuery
