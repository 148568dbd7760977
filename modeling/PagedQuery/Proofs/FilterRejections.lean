import PagedQuery.Proofs.FilterNames

/-!
# Texts that are no filters

A filter is read in stages: its match type, its property type, its names and its value.
The first stage that fails decides the report, which names the whole text and the part of
it that is to blame.  A text that passes all stages is a filter, and nothing else can
happen to it.

Main results:

- Theorem `objection_of_parse` and Theorem `parse_of_objection`: a text is rejected exactly
  for the first of its parts that does not fit.
- Theorem `parse_classified`: how every text is read.
-/

namespace PagedQuery
namespace PropertyFilter

open Text

/-! ## Objections -/

/-- No match type is found under what is not the name of one. -/
theorem ofName?_eq_none_iff {token : String} :
    MatchType.ofName? token = none ↔ ∀ m : MatchType, m.name ≠ token := by
  simp only [Option.eq_none_iff_forall_ne_some, ne_eq, ofName?_eq_some_iff]

/-- No property type is found under what is not the letter of one. -/
theorem ofLetter?_eq_none_iff {token : String} :
    PropertyType.ofLetter? token = none ↔ ∀ t : PropertyType, t.letter ≠ token := by
  simp only [Option.eq_none_iff_forall_ne_some, ne_eq, ofLetter?_eq_some_iff]

/-- What is wrong with the text of a filter and the text of its value: the code of the
objection, the token that is to blame, and further details.  Each objection is raised only
when those before it are not. -/
inductive Objection (spec : String) (raw : Option String) : String → String → Entries → Prop
  /-- What stands first is not the name of a match type. -/
  | matchType : (∀ m : MatchType, m.name ≠ matchToken spec) →
      Objection spec raw "invalid_match_type" (matchToken spec) []
  /-- What stands next is not the letter of a property type. -/
  | propertyType {m : MatchType} : m.name = matchToken spec →
      (∀ t : PropertyType, t.letter ≠ typeToken spec) →
      Objection spec raw "invalid_property_type" (typeToken spec) []
  /-- One of the names is empty. -/
  | propertyName {m : MatchType} {t : PropertyType} {pieces : List (List Char)} :
      Typed spec m t → Splits (namesPart spec) pieces → [] ∈ pieces →
      Objection spec raw "missing_property_name" (.ofList (namesPart spec)) []
  /-- There is no value. -/
  | noValue {m : MatchType} {t : PropertyType} {pieces : List (List Char)} :
      Typed spec m t → Named spec pieces → raw = none →
      Objection spec raw "invalid_value" "" []
  /-- The value is none of the property type. -/
  | value {m : MatchType} {t : PropertyType} {pieces : List (List Char)} {text : String}
      {why : Coercion.Rejection} :
      Typed spec m t → Named spec pieces → raw = some text → t.coerce text = .error why →
      Objection spec raw "invalid_value" text [("target_type", .text t.label)]

/-- Reading a text and the text of its value ends with the report that they are no filter.
The report names the whole text and the token that is to blame, in its parts and in its
details. -/
def Rejects (spec : String) (raw : Option String) (code token : String) (more : Entries) :
    Prop :=
  ∃ r report, parse spec raw = .error r ∧ r.failure = .report report ∧
    report.kind = .filterParse spec token ∧ report.code = code ∧
    report.detail = [("filter_spec", .text spec), ("token", .text token)] ++ more

/-! ## Rejected texts -/

section

variable {spec : String} {raw : Option String}

/-- The report of a rejection has the parts of the rejection. -/
theorem failure_report (r : Rejection) : ∃ report, r.failure = .report report ∧
    report.kind = .filterParse r.spec r.token ∧ report.code = r.code ∧
    report.detail = [("filter_spec", .text r.spec), ("token", .text r.token)] ++ r.detail := by
  cases r <;> exact ⟨_, rfl, rfl, rfl, rfl⟩

/-- A text is rejected by a report when it is rejected for the whole text, with the parts
of the report. -/
theorem rejects_iff {code token : String} {more : Entries} :
    Rejects spec raw code token more ↔ ∃ r, parse spec raw = .error r ∧ r.spec = spec ∧
      r.code = code ∧ r.token = token ∧ r.detail = more := by
  constructor
  · rintro ⟨r, report, hparse, hfailure, hkind, hcode, hdetail⟩
    obtain ⟨_, hreport, hkind', hcode', hdetail'⟩ := failure_report r
    rw [hfailure, Failure.report.injEq] at hreport
    subst hreport
    rw [hkind, ReportKind.filterParse.injEq] at hkind'
    obtain ⟨hspec, htoken⟩ := hkind'
    rw [hdetail, ← hspec, ← htoken] at hdetail'
    exact ⟨r, hparse, hspec.symm, hcode'.symm.trans hcode, htoken.symm,
      (List.append_cancel_left hdetail').symm⟩
  · rintro ⟨r, hparse, rfl, rfl, rfl, rfl⟩
    obtain ⟨report, hreport⟩ := failure_report r
    exact ⟨r, report, hparse, hreport⟩

/-- A value is rejected when there is no text of it, or when the text is none of the
property type. -/
theorem readValue_error {t : PropertyType} {r : Rejection}
    (h : readValue spec t raw = .error r) :
    (raw = none ∧ r = .noValue spec t) ∨
      ∃ text why, raw = some text ∧ t.coerce text = .error why ∧ r = .value spec text t := by
  cases raw with
  | none =>
      cases h
      exact Or.inl ⟨rfl, rfl⟩
  | some text =>
      simp only [readValue] at h
      split at h
      · cases h
      · rename_i why hwhy
        cases h
        exact Or.inr ⟨text, why, rfl, hwhy, rfl⟩

/-- A text without the name of a match type is rejected for its first part. -/
theorem parse_unmatched (h : ∀ m : MatchType, m.name ≠ matchToken spec) :
    parse spec raw = .error (.matchType spec (matchToken spec)) := by
  have hname := ofName?_eq_none_iff.2 h
  simp only [matchToken] at hname ⊢
  simp only [parse, cutAt_lowLine, hname]

/-- A text with the name of a match type, but without the letter of a property type, is
rejected for its second part. -/
theorem parse_untyped {m : MatchType} (hmatch : m.name = matchToken spec)
    (htype : ∀ t : PropertyType, t.letter ≠ typeToken spec) :
    parse spec raw = .error (.propertyType spec (typeToken spec)) := by
  have hname := ofName?_eq_some_iff.2 hmatch
  have hletter := ofLetter?_eq_none_iff.2 htype
  simp only [matchToken, typeToken] at hname hletter ⊢
  simp only [parse, cutAt_lowLine, hname, hletter]

/-- A text that names its types and its properties is rejected for its value. -/
theorem parse_unread {m : MatchType} {t : PropertyType} {pieces : List (List Char)}
    (htyped : Typed spec m t) (hnamed : Named spec pieces) {r : Rejection}
    (hread : readValue spec t raw = .error r) : parse spec raw = .error r := by
  rw [parse_typed htyped hnamed.splits, hnamed.any_isEmpty, hread]
  rfl

/-- What is wrong with a text gets it rejected. -/
theorem parse_of_objection {code token : String} {more : Entries}
    (h : Objection spec raw code token more) :
    ∃ r, parse spec raw = .error r ∧ r.spec = spec ∧ r.code = code ∧ r.token = token ∧
      r.detail = more := by
  cases h with
  | matchType hmatch => exact ⟨_, parse_unmatched hmatch, rfl, rfl, rfl, rfl⟩
  | propertyType hmatch htype => exact ⟨_, parse_untyped hmatch htype, rfl, rfl, rfl, rfl⟩
  | propertyName htyped hsplits hempty =>
      refine ⟨.propertyName spec (.ofList (namesPart spec)), ?_, rfl, rfl, rfl, rfl⟩
      rw [parse_typed htyped hsplits, if_pos (List.any_eq_true.2 ⟨[], hempty, rfl⟩)]
  | noValue htyped hnamed hraw =>
      subst hraw
      exact ⟨_, parse_unread htyped hnamed rfl, rfl, rfl, rfl, rfl⟩
  | @value m t pieces _ why htyped hnamed hraw hwhy =>
      subst hraw
      have hread : readValue spec t (some token) = .error (.value spec token t) := by
        simp only [readValue, hwhy]
      exact ⟨_, parse_unread htyped hnamed hread, rfl, rfl, rfl, rfl⟩

/-- A text is rejected for what is wrong with it. -/
theorem objection_of_parse {r : Rejection} (h : parse spec raw = .error r) :
    r.spec = spec ∧ Objection spec raw r.code r.token r.detail := by
  by_cases hmatch : ∃ m : MatchType, m.name = matchToken spec
  · obtain ⟨m, hmatch⟩ := hmatch
    by_cases htype : ∃ t : PropertyType, t.letter = typeToken spec
    · obtain ⟨t, htype⟩ := htype
      have htyped : Typed spec m t := ⟨hmatch, htype⟩
      have hsplits : Splits (namesPart spec) (splitNames (namesPart spec)) :=
        splitNames_eq_iff.1 rfl
      rw [parse_typed htyped hsplits] at h
      by_cases hempty : [] ∈ splitNames (namesPart spec)
      · rw [if_pos (List.any_eq_true.2 ⟨[], hempty, rfl⟩)] at h
        cases h
        exact ⟨rfl, .propertyName htyped hsplits hempty⟩
      · have hnamed : Named spec (splitNames (namesPart spec)) := ⟨hsplits, hempty⟩
        rw [hnamed.any_isEmpty, if_neg Bool.false_ne_true] at h
        have hread : readValue spec t raw = .error r := by
          cases hvalue : readValue spec t raw with
          | ok value =>
              rw [hvalue] at h
              cases h
          | error rejection =>
              rw [hvalue] at h
              cases h
              rfl
        rcases readValue_error hread with ⟨hraw, rfl⟩ | ⟨text, why, hraw, hwhy, rfl⟩
        · exact ⟨rfl, .noValue htyped hnamed hraw⟩
        · exact ⟨rfl, .value htyped hnamed hraw hwhy⟩
    · have hnone := not_exists.1 htype
      rw [parse_untyped hmatch hnone] at h
      cases h
      exact ⟨rfl, .propertyType hmatch hnone⟩
  · have hnone := not_exists.1 hmatch
    rw [parse_unmatched hnone] at h
    cases h
    exact ⟨rfl, .matchType hnone⟩

/-! ## Accepted texts -/

/-- A text that was read has the parts of the filter. -/
theorem accepts_of_parse {f : PropertyFilter} (h : parse spec raw = .ok f) :
    Accepts spec raw f := by
  obtain ⟨hmatch, htype, hnames, hnonempty, hvalue⟩ := parse_ok h
  simp only [cutAt_lowLine] at hmatch htype hnames hnonempty
  have hpieces : f.names.map String.toList = splitNames (namesPart spec) := by
    rw [hnames, map_toList_ofList]
    rfl
  refine ⟨⟨matchType_name hmatch, propertyType_letter htype⟩, ⟨?_, ?_⟩, readValue_ok hvalue⟩
  · exact splitNames_eq_iff.1 hpieces.symm
  · rw [hpieces]
    exact fun hnil => hnonempty [] hnil rfl

end

/-- How every text is read.  It is rejected exactly for what is wrong with it, by a report
that names the whole text and the token that is to blame; it is read as a filter exactly
when it has the parts of that filter; and one of the two happens. -/
theorem parse_classified (spec : String) (raw : Option String) :
    (∀ code token more,
        Rejects spec raw code token more ↔ Objection spec raw code token more) ∧
      (∀ f, parse spec raw = .ok f ↔ Accepts spec raw f) ∧
      ((∃ f, parse spec raw = .ok f) ∨ ∃ code token more, Rejects spec raw code token more) := by
  refine ⟨?_, fun f => ⟨accepts_of_parse, parse_of_accepts⟩, ?_⟩
  · intro code token more
    rw [rejects_iff]
    constructor
    · rintro ⟨r, hparse, -, rfl, rfl, rfl⟩
      exact (objection_of_parse hparse).2
    · exact parse_of_objection
  · cases hparse : parse spec raw with
    | ok f => exact Or.inl ⟨f, rfl⟩
    | error r =>
        exact Or.inr ⟨_, _, _, rejects_iff.2
          ⟨r, hparse, (objection_of_parse hparse).1, rfl, rfl, rfl⟩⟩

end PropertyFilter
end PagedQuery
