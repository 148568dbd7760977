import Mathlib.Data.List.Infix
import PagedQuery.Proofs.SharedRows
import PagedQuery.Relational.Directory

/-!
# Searches in lists and in tables

A list of rows is searched for a text as it is written.  A database searches with a
pattern: it takes capitals and small letters of ASCII for the same, and a NUL ends the
pattern before its last sign, so that what stands in front of the NUL must end the searched
text.  The rows that a list finds are found in a table too; the table may find more.

Main results:

- Theorem `likeContains_iff`: what the pattern of a text is found in.
- Theorem `foundIn_iff_contains`: when a text is found as it is written.
- Theorem `embedded_takes_searchFor`: which searches the embedded engine takes.
- Theorem `findBy_like_list` and Theorem `find_searchFor_table`: what a search finds in
  either place.
- Theorem `findBy_like_agrees_iff`: a search finds the same rows in both places exactly when
  every text that the pattern is found in contains the needle as it is written.
-/

namespace PagedQuery
namespace Relational

open Repository

/-! ## Patterns of searches -/

/-- Some part of a text is the needle up to its first NUL, but for the case of ASCII
letters.  When there is a NUL, that part must end the text. -/
def FoundIn (needle hay : List Char) : Prop :=
  ∃ before part after, hay = before ++ part ++ after ∧
    part.map foldAscii = (beforeNul needle).map foldAscii ∧ ('\x00' ∈ needle → after = [])

/-- What follows the characters of a needle in its pattern: nothing behind a NUL, and else
any run of characters. -/
def patternEnd (needle : List Char) : List PatternPart :=
  if '\x00' ∈ needle then [] else [.run]

/-- A text that is escaped ends at the same NUL as before. -/
theorem beforeNul_escapeSigns (needle rest : List Char) :
    beforeNul (escapeSigns needle ++ rest) =
      escapeSigns (beforeNul needle) ++ if '\x00' ∈ needle then [] else beforeNul rest := by
  induction needle with
  | nil => rfl
  | cons c cs ih =>
      by_cases hnul : c = '\x00'
      · subst hnul
        rfl
      · have hkept : (c != '\x00') = true := by simpa using hnul
        have hmem : '\x00' ∈ c :: cs ↔ '\x00' ∈ cs := by simp [Ne.symm hnul]
        simp only [beforeNul] at ih
        by_cases hsign : c == escapeSign || c == '%' || c == '_'
        · have hescape : (escapeSign != '\x00') = true := by decide
          simp only [escapeSigns, hsign, if_true, List.cons_append, hmem, ← ih, beforeNul,
            List.takeWhile_cons, hescape, hkept]
        · simp only [escapeSigns, hsign, if_false, List.cons_append, hmem, ← ih, beforeNul,
            List.takeWhile_cons, hkept, if_true, Bool.false_eq_true]

/-- The pattern of a needle is read as any run, the characters of the needle up to its first
NUL, and what follows them. -/
theorem readPattern_containsPattern (needle : List Char) :
    readPattern escapeSign (beforeNul (containsPattern needle)) =
      .run :: ((beforeNul needle).map .char ++ patternEnd needle) := by
  have hpattern : beforeNul (containsPattern needle) =
      '%' :: (escapeSigns (beforeNul needle) ++ if '\x00' ∈ needle then [] else ['%']) := by
    have hcut : beforeNul (containsPattern needle) =
        '%' :: beforeNul (escapeSigns needle ++ ['%']) := rfl
    rw [hcut, beforeNul_escapeSigns]
    rfl
  have hpercent : ∀ cs, readPattern escapeSign ('%' :: cs) = .run :: readPattern escapeSign cs := by
    intro cs
    cases cs <;> rfl
  rw [hpattern, hpercent, readPattern_escapeSigns, patternEnd]
  split <;> rfl

/-- A text fits characters and further parts when it starts with these characters, but for
the case of ASCII letters, and the rest fits the further parts. -/
theorem fits_chars_append (cs : List Char) (parts : List PatternPart) (hay : List Char) :
    fits (cs.map .char ++ parts) hay = true ↔
      ∃ part after, hay = part ++ after ∧ part.map foldAscii = cs.map foldAscii ∧
        fits parts after = true := by
  induction cs generalizing hay with
  | nil =>
      constructor
      · exact fun h => ⟨[], hay, rfl, rfl, h⟩
      · rintro ⟨part, after, rfl, hpart, hfits⟩
        rw [List.map_nil, List.map_eq_nil_iff] at hpart
        rw [hpart]
        exact hfits
  | cons d cs ih =>
      cases hay with
      | nil =>
          constructor
          · intro h
            simp [fits] at h
          · rintro ⟨part, after, hnil, hpart, -⟩
            rw [(List.append_eq_nil_iff.1 hnil.symm).1] at hpart
            simp at hpart
      | cons c hay =>
          rw [List.map_cons, List.cons_append, fits, Bool.and_eq_true, beq_iff_eq, ih]
          constructor
          · rintro ⟨hfirst, part, after, rfl, hpart, hfits⟩
            exact ⟨c :: part, after, rfl, by rw [List.map_cons, hfirst, hpart, List.map_cons],
              hfits⟩
          · rintro ⟨part, after, hhay, hpart, hfits⟩
            cases part with
            | nil => simp at hpart
            | cons b part =>
                rw [List.map_cons, List.map_cons, List.cons.injEq] at hpart
                rw [List.cons_append, List.cons.injEq] at hhay
                exact ⟨hhay.1 ▸ hpart.1, part, after, hhay.2, hpart.2, hfits⟩

/-- What follows the characters of a needle fits every text, or no text but the empty one. -/
theorem fits_patternEnd (needle after : List Char) :
    fits (patternEnd needle) after = true ↔ ('\x00' ∈ needle → after = []) := by
  rw [patternEnd]
  split
  · rename_i hnul
    simp [fits, hnul]
  · rename_i hnul
    have hrun : fits [.run] after = true := by
      rw [fits, existsSuffix_iff]
      exact ⟨after, [], (List.append_nil after).symm, rfl⟩
    simp [hrun, hnul]

/-- The pattern of a needle is found in a text without NUL exactly when the needle is. -/
theorem likeContains_iff {needle hay : List Char} (h : '\x00' ∉ hay) :
    likeContains needle hay = true ↔ FoundIn needle hay := by
  rw [likeContains, beforeNul_of_not_mem h, readPattern_containsPattern, fits, existsSuffix_iff]
  constructor
  · rintro ⟨before, rest, rfl, hfits⟩
    obtain ⟨part, after, rfl, hpart, hend⟩ := (fits_chars_append _ _ _).1 hfits
    exact ⟨before, part, after, (List.append_assoc ..).symm, hpart,
      (fits_patternEnd needle after).1 hend⟩
  · rintro ⟨before, part, after, rfl, hpart, hend⟩
    exact ⟨before, part ++ after, List.append_assoc .., (fits_chars_append _ _ _).2
      ⟨part, after, rfl, hpart, (fits_patternEnd needle after).2 hend⟩⟩

/-- A text without NUL that contains the needle as it is written contains it for a database
too. -/
theorem foundIn_of_contains {needle hay : List Char} (h : '\x00' ∉ hay) (hin : needle <:+: hay) :
    FoundIn needle hay := by
  have hnul : '\x00' ∉ needle := fun hmem => h (hin.subset hmem)
  obtain ⟨before, after, rfl⟩ := hin
  exact ⟨before, needle, after, rfl, by rw [beforeNul_of_not_mem hnul], fun hmem =>
    absurd hmem hnul⟩

/-- Lists that are equal but for the case of ASCII letters are equal where such letters of
the same kind are. -/
theorem eq_of_map_foldAscii {part needle : List Char}
    (h : part.map foldAscii = needle.map foldAscii)
    (hcase : ∀ c ∈ part, ∀ d ∈ needle, foldAscii c = foldAscii d → c = d) : part = needle := by
  induction part generalizing needle with
  | nil =>
      rw [List.map_nil, eq_comm, List.map_eq_nil_iff] at h
      exact h.symm
  | cons c part ih =>
      cases needle with
      | nil => simp at h
      | cons d needle =>
          rw [List.map_cons, List.map_cons, List.cons.injEq] at h
          rw [hcase c List.mem_cons_self d List.mem_cons_self h.1]
          congr 1
          exact ih h.2 fun a ha b hb =>
            hcase a (List.mem_cons_of_mem c ha) b (List.mem_cons_of_mem d hb)

/-- Where no letter of a needle without NUL stands in the other case in the text, a database
finds the needle as it is written. -/
theorem foundIn_iff_contains {needle hay : List Char} (hneedle : '\x00' ∉ needle)
    (hhay : '\x00' ∉ hay)
    (hcase : ∀ c ∈ hay, ∀ d ∈ needle, foldAscii c = foldAscii d → c = d) :
    FoundIn needle hay ↔ needle <:+: hay := by
  refine ⟨?_, foundIn_of_contains hhay⟩
  rintro ⟨before, part, after, rfl, hpart, -⟩
  rw [beforeNul_of_not_mem hneedle] at hpart
  refine ⟨before, after, ?_⟩
  rw [eq_of_map_foldAscii hpart fun c hc =>
    hcase c (List.mem_append_left after (List.mem_append_right before hc))]

/-! ## Columns of texts -/

/-- A column with a text in every record, none of them with a NUL. -/
structure Table.HasTexts (t : Table) (property : String) : Prop where
  mapped : ∃ c, t.schema.column? property = some c
  there : ∀ r ∈ t.records, ∃ s, r.cell property = .text s ∧ '\x00' ∉ s.toList

/-- The comparison that looks for a needle inside a property. -/
def searchFor (property needle : String) : Predicate :=
  .compare property .contains (.text needle)

variable {e : Engine} {entity name id property : String} {t : Table} {rows : List Value}

/-- Looking for a text with the match type of searches is a search. -/
theorem findBy_like {σ ρ : Type} (r : Repository σ ρ) (property needle : String) :
    r.findBy property (.text needle) .like = r.find [searchFor property needle] := rfl

/-- Evaluation finds a needle in a property as it is written. -/
theorem holds_searchFor {r : Record} {s : String} (h : r.cell property = .text s)
    (needle : String) :
    (searchFor property needle).holds r.toMapping =
      .ok (Text.occurs needle.toList s.toList) := by
  rw [searchFor, Predicate.holds_compare, property_toMapping, h]
  rfl

/-- A row meets a search exactly when the text contains the needle as it is written. -/
theorem isMet_searchFor {r : Record} {s : String} (h : r.cell property = .text s)
    (needle : String) :
    (searchFor property needle).isMet r.toMapping = true ↔ needle.toList <:+: s.toList := by
  rw [Predicate.isMet_of_holds (holds_searchFor h needle), Text.occurs_iff]
  constructor
  · rintro ⟨before, after, heq⟩
    exact ⟨before, after, heq.symm⟩
  · rintro ⟨before, after, heq⟩
    exact ⟨before, after, heq.symm⟩

/-- A list of rows is searched by evaluation. -/
theorem findBy_like_list (htexts : t.HasTexts property) {m : World Collection.Store}
    (hkept : KeepsRows name t rows m.store) (needle : String) :
    ((findBy ⟨Collection.backend, name⟩ property (.text needle) .like).run m).1 =
      .ok (Predicate.select [searchFor property needle] rows) := by
  rw [findBy_like, Collection.find_matching hkept.found, Collection.matching_filter]
  intro row hrow
  obtain ⟨r, hr, rfl⟩ := record_of_mem hkept hrow
  obtain ⟨s, hs, -⟩ := htexts.there r hr
  exact Predicate.evaluatesAll_of_each
    (List.forall_mem_singleton.2 ⟨_, holds_searchFor hs needle⟩)

/-! ## Statements of searches -/

/-- The condition of a search. -/
def searchCondition {β : Type} (property needle : String) : Condition β :=
  .contains property needle

/-- The statement of a search. -/
def searchStatement {β : Type} (s : Schema) (property needle : String) : Selection β :=
  ⟨s, .rows, searchCondition property needle, [], none, none⟩

/-- A search for a property that exists becomes its condition. -/
theorem ofPredicate_searchFor {s : Schema} (hcolumn : ∃ c, s.column? property = some c)
    (needle : String) :
    Condition.ofPredicate s (searchFor property needle) =
      .ok (searchCondition property needle) := by
  obtain ⟨c, hc⟩ := hcolumn
  simp only [searchFor, Condition.ofPredicate, Schema.column, hc, Condition.ofComparison,
    (Schema.column?_mem hc).2, searchCondition]

/-- A search for a property that exists becomes its statement. -/
theorem searchStatement_made (hcolumn : ∃ c, t.schema.column? property = some c)
    (needle : String) :
    Selection.ofQuery t.schema (plainQuery ⟨backend, entity⟩ [searchFor property needle]) =
      .ok (searchStatement t.schema property needle) := by
  have hcondition : Condition.ofPredicates t.schema [searchFor property needle] =
      .ok [searchCondition property needle] := by
    simp only [Condition.ofPredicates, ofPredicate_searchFor hcolumn]
  rw [ofQuery_made rfl hcondition rfl rfl rfl]
  rfl

/-- The embedded engine takes a search unless its pattern is too long for a record to be
tested by it. -/
theorem embedded_takes_searchFor (hcolumn : ∃ c, t.schema.column? property = some c)
    (needle : String) :
    Engine.embedded.TakesQuery t (plainQuery ⟨backend, entity⟩ [searchFor property needle]) ↔
      ¬(patternLimit < patternSize needle ∧ t.records ≠ []) := by
  have hread : Embedded.read (searchStatement t.schema property needle) = .ok () := rfl
  have hoverruns : t.records.any (Condition.overruns (searchCondition property needle)) =
      true ↔ patternLimit < patternSize needle ∧ t.records ≠ [] := by
    simp only [List.any_eq_true, searchCondition, Condition.overruns, decide_eq_true_eq]
    constructor
    · rintro ⟨r, hr, hlong⟩
      exact ⟨hlong, List.ne_nil_of_mem hr⟩
    · rintro ⟨hlong, hsome⟩
      obtain ⟨r, hr⟩ := List.exists_mem_of_ne_nil t.records hsome
      exact ⟨r, hr, hlong⟩
  have hanswer : (∃ selected, Embedded.answer (searchStatement t.schema property needle)
      t.records = .ok selected) ↔ ¬(patternLimit < patternSize needle ∧ t.records ≠ []) := by
    rw [← hoverruns, Embedded.answer]
    split
    · rename_i hlong
      refine iff_of_false ?_ (not_not_intro (Bool.and_eq_true_iff.1 hlong).2)
      rintro ⟨selected, hselected⟩
      cases hselected
    · rename_i hshort
      exact iff_of_true ⟨_, rfl⟩ hshort
  rw [← hanswer]
  constructor
  · intro htaken
    exact (htaken _ (searchStatement_made hcolumn needle)).2 _ rfl
  · intro hselected s hmade
    cases (searchStatement_made hcolumn needle).symm.trans hmade
    refine ⟨hread, ?_⟩
    intro sent hsend
    cases hsend
    exact hselected

/-- The records that a search finds in a table. -/
def searched (t : Table) (property needle : String) : List Record :=
  t.records.filter (searchCondition property needle).selects

/-- A record is found exactly when the pattern is found in its text. -/
theorem selects_searchCondition {r : Record} {s : String} (h : r.cell property = .text s)
    (hnul : '\x00' ∉ s.toList) (needle : String) :
    (searchCondition property needle).selects r = true ↔ FoundIn needle.toList s.toList := by
  rw [← likeContains_iff hnul, Condition.selects, searchCondition, Condition.truth, h,
    Condition.cellContains, Cell.toText?, Option.map_some, beq_iff_eq]
  cases likeContains needle.toList s.toList <;> simp [Truth.ofOption]

/-- A table is searched by the pattern of the needle, when the engine takes the search. -/
theorem find_searchFor_table (htyped : t.IsTyped id) (hpresent : t.schema.present = true)
    (hcolumn : ∃ c, t.schema.column? property = some c) {w : World Database}
    (hserved : Serves e entity t w.store) {needle : String}
    (htaken : e.TakesQuery t (plainQuery ⟨backend, entity⟩ [searchFor property needle])) :
    ∃ shown records w',
      (find ⟨backend, entity⟩ [searchFor property needle]).run w = (.ok shown, w') ∧
        List.Forall₂ Shows shown records ∧ records.Perm (searched t property needle) := by
  have hmade : Selection.ofQuery t.schema
      (plainQuery ⟨backend, entity⟩ [searchFor property needle]) = .ok _ :=
    searchStatement_made hcolumn needle
  have hsend : (searchStatement t.schema property needle).send =
      .ok (searchStatement t.schema property needle) := rfl
  obtain ⟨met, hmet, hrun⟩ := Selection.run_taken hsend (htaken _ hmade)
  obtain ⟨shown, w', hfound, hshown, -⟩ := find_run ⟨backend, entity⟩ opens_serves
    (fetchRows_answered htyped hmade hpresent hrun fun records hrecords r hr =>
      hmet.mem_iff.1 (mem_of_select hrecords r hr)) hserved
  exact ⟨shown, _, w', hfound, hshown, (orderRecords_perm _ _).trans (hmet.filter _)⟩

/-- A search that the engine does not take finds nothing. -/
theorem find_searchFor_refused (hpresent : t.schema.present = true)
    (hcolumn : ∃ c, t.schema.column? property = some c) {w : World Database}
    (hserved : Serves e entity t w.store) {needle : String}
    (hrefused : ¬e.TakesQuery t (plainQuery ⟨backend, entity⟩ [searchFor property needle])) :
    ∃ fault, ((find ⟨backend, entity⟩ [searchFor property needle]).run w).1 =
      .error (queryFailed entity fault) := by
  have hmade : Selection.ofQuery t.schema
      (plainQuery ⟨backend, entity⟩ [searchFor property needle]) = .ok _ :=
    searchStatement_made hcolumn needle
  have hnot : ¬e.Takes (searchStatement t.schema property needle) t.records := by
    intro htaken
    apply hrefused
    intro s hs
    cases hmade.symm.trans hs
    exact htaken
  have hsend : (searchStatement t.schema property needle).send =
      .ok (searchStatement t.schema property needle) := rfl
  obtain ⟨fault, hrun⟩ := Selection.run_refused hsend hnot
  obtain ⟨failure, hfailed, fault', rfl⟩ := find_refused ⟨backend, entity⟩ opens_serves
    (fetchRows_refused hmade hpresent hrun) hserved
  exact ⟨fault', hfailed⟩

/-! ## Both places -/

/-- A search for a needle in a column of texts finds, in a list, the rows whose texts contain
the needle as it is written, and in a table those in which the database finds its pattern.
The found rows are the same exactly when the second kind is of the first kind.  Only a search
that the engine does not take is refused; the embedded one takes all but those with a pattern
that is too long. -/
theorem findBy_like_agrees_iff (htyped : t.IsTyped id) (hpresent : t.schema.present = true)
    (htexts : t.HasTexts property) {m : World Collection.Store}
    (hkept : KeepsRows name t rows m.store) {w : World Database}
    (hserved : Serves e entity t w.store) (needle : String) :
    ∃ found, ((findBy ⟨Collection.backend, name⟩ property (.text needle) .like).run m).1 =
        .ok found ∧
      (∀ r ∈ t.records, r.toMapping ∈ found ↔
        ∃ s, r.cell property = .text s ∧ needle.toList <:+: s.toList) ∧
      (¬e.TakesQuery t (plainQuery ⟨backend, entity⟩ [searchFor property needle]) → ∃ fault,
        ((findBy ⟨backend, entity⟩ property (.text needle) .like).run w).1 =
          .error (queryFailed entity fault)) ∧
      (e.TakesQuery t (plainQuery ⟨backend, entity⟩ [searchFor property needle]) →
        ∃ shown records w',
          (findBy ⟨backend, entity⟩ property (.text needle) .like).run w = (.ok shown, w') ∧
            List.Forall₂ Shows shown records ∧
            (∀ r ∈ t.records, r ∈ records ↔
              ∃ s, r.cell property = .text s ∧ FoundIn needle.toList s.toList) ∧
            (found.Perm (records.map Record.toMapping) ↔
              ∀ r ∈ t.records, ∀ s, r.cell property = .text s →
                FoundIn needle.toList s.toList → needle.toList <:+: s.toList)) ∧
      (Engine.embedded.TakesQuery t
          (plainQuery ⟨backend, entity⟩ [searchFor property needle]) ↔
        ¬(patternLimit < patternSize needle ∧ t.records ≠ [])) := by
  have hmet : ∀ r ∈ t.records, (searchFor property needle).isMet r.toMapping = true ↔
      ∃ s, r.cell property = .text s ∧ needle.toList <:+: s.toList := by
    intro r hr
    obtain ⟨s, hs, -⟩ := htexts.there r hr
    rw [isMet_searchFor hs, hs]
    simp
  have hselected : ∀ r ∈ t.records, (searchCondition property needle).selects r = true ↔
      ∃ s, r.cell property = .text s ∧ FoundIn needle.toList s.toList := by
    intro r hr
    obtain ⟨s, hs, hnul⟩ := htexts.there r hr
    rw [selects_searchCondition hs hnul, hs]
    simp
  have hfound : (Predicate.select [searchFor property needle] rows).Perm
      ((t.records.filter fun r => (searchFor property needle).isMet r.toMapping).map
        Record.toMapping) := by
    simp only [Predicate.select, List.all_cons, List.all_nil, Bool.and_true]
    exact (hkept.same.filter _).trans (List.Perm.of_eq List.filter_map)
  have hmem : ∀ r ∈ t.records, r.toMapping ∈ Predicate.select [searchFor property needle] rows ↔
      ∃ s, r.cell property = .text s ∧ needle.toList <:+: s.toList := by
    intro r hr
    rw [Predicate.select, List.mem_filter, List.all_cons, List.all_nil, Bool.and_true, hmet r hr]
    exact and_iff_right (hkept.same.mem_iff.2 (List.mem_map_of_mem hr))
  refine ⟨_, findBy_like_list htexts hkept needle, hmem,
    find_searchFor_refused hpresent htexts.mapped hserved, ?_,
    embedded_takes_searchFor htexts.mapped needle⟩
  · intro htaken
    obtain ⟨shown, records, w', hrun, hshown, hperm⟩ :=
      find_searchFor_table htyped hpresent htexts.mapped hserved htaken
    have hrecords : ∀ r ∈ t.records, r ∈ records ↔
        ∃ s, r.cell property = .text s ∧ FoundIn needle.toList s.toList := by
      intro r hr
      rw [hperm.mem_iff, searched, List.mem_filter, hselected r hr]
      exact and_iff_right hr
    refine ⟨shown, records, w', hrun, hshown, hrecords, ?_⟩
    constructor
    · intro hsame r hr s hs hin
      have hrow := hsame.mem_iff.2 (List.mem_map_of_mem ((hrecords r hr).2 ⟨s, hs, hin⟩))
      obtain ⟨s', hs', hinfix⟩ := (hmem r hr).1 hrow
      rw [hs, Cell.text.injEq] at hs'
      exact hs' ▸ hinfix
    · intro hexact
      apply hfound.trans (List.Perm.trans _ (hperm.map Record.toMapping).symm)
      apply List.Perm.of_eq
      rw [searched]
      congr 1
      apply List.filter_congr
      intro r hr
      obtain ⟨s, hs, hnul⟩ := htexts.there r hr
      rw [Bool.eq_iff_iff, isMet_searchFor hs, selects_searchCondition hs hnul]
      exact ⟨foundIn_of_contains hnul, hexact r hr s hs⟩

/-! ## A name with a capital -/

/-- A user with a capital in the name. -/
def ann : Record :=
  [("id", .integer 1), ("name", .text "Ann"), ("login", .text "ann"), ("age", .integer 30),
    ("status", .text "active")]

/-- The table of users with this user only. -/
def annTable : Table := ⟨userSchema, [ann]⟩

/-- The table of the user is typed. -/
theorem annTable_isTyped : annTable.IsTyped "id" := by
  constructor
  · rw [annTable, List.forall_mem_singleton]
    apply Record.isTyped_of_columns
    decide
  · rfl
  · exact ⟨_, rfl⟩
  · rw [annTable, List.forall_mem_singleton]
    decide
  · decide

/-- Every user of the table has a name. -/
theorem annTable_hasTexts : annTable.HasTexts "name" := by
  refine ⟨⟨_, rfl⟩, ?_⟩
  rw [annTable, List.forall_mem_singleton]
  exact ⟨"Ann", rfl, by decide⟩

/-- A database with this table serves it. -/
theorem annTable_served : Serves .embedded "User" annTable { tables := [annTable] } :=
  ⟨rfl, rfl, rfl, mirrors_of_held_nil rfl⟩

/-- The embedded engine takes the search for the name in small letters. -/
theorem takesQuery_small : Engine.embedded.TakesQuery annTable
    (plainQuery ⟨backend, "User"⟩ [searchFor "name" "ann"]) :=
  (embedded_takes_searchFor annTable_hasTexts.mapped "ann").2 (by decide)

/-- A search for the name in small letters finds the user in the table only. -/
theorem findBy_small_differs :
    ((findBy ⟨Collection.backend, "users"⟩ "name" (.text "ann") .like).run
        ⟨{ collections := [("users", [ann.toMapping])] }, []⟩).1 = .ok [] ∧
      ∃ row, ((findBy ⟨backend, "User"⟩ "name" (.text "ann") .like).run
        ⟨{ tables := [annTable] }, []⟩).1 = .ok [row] ∧ Shows row ann := by
  constructor
  · rfl
  · obtain ⟨shown, records, w', hrun, hshown, hperm⟩ := find_searchFor_table
      (w := ⟨{ tables := [annTable] }, []⟩) annTable_isTyped rfl annTable_hasTexts.mapped
      annTable_served takesQuery_small
    change (findBy ⟨backend, "User"⟩ "name" (.text "ann") .like).run _ = _ at hrun
    have hsearched : searched annTable "name" "ann" = [ann] := rfl
    rw [hsearched, List.perm_singleton] at hperm
    rw [hperm, List.forall₂_cons_right_iff] at hshown
    obtain ⟨row, rest, hrow, hrest, rfl⟩ := hshown
    rw [List.forall₂_nil_right_iff] at hrest
    exact ⟨row, by rw [hrun, hrest], hrow⟩

/-- The rows that are found differ because the pattern is found in a name that does not
contain the needle. -/
theorem findBy_like_agrees_iff_small :
    ∃ found, ((findBy ⟨Collection.backend, "users"⟩ "name" (.text "ann") .like).run
        ⟨{ collections := [("users", [ann.toMapping])] }, []⟩).1 = .ok found ∧
      ∃ shown records w', (findBy ⟨backend, "User"⟩ "name" (.text "ann") .like).run
        ⟨{ tables := [annTable] }, []⟩ = (.ok shown, w') ∧
        List.Forall₂ Shows shown records ∧
        ¬found.Perm (records.map Record.toMapping) := by
  have hkept : KeepsRows "users" annTable [ann.toMapping]
      { collections := [("users", [ann.toMapping])] } := ⟨rfl, .refl _⟩
  obtain ⟨found, hfound, -, -, htaken, -⟩ := findBy_like_agrees_iff
    (m := ⟨{ collections := [("users", [ann.toMapping])] }, []⟩)
    (w := ⟨{ tables := [annTable] }, []⟩)
    annTable_isTyped rfl annTable_hasTexts hkept annTable_served "ann"
  obtain ⟨shown, records, w', hrun, hshown, -, hsame⟩ := htaken takesQuery_small
  refine ⟨found, hfound, shown, records, w', hrun, hshown, ?_⟩
  rw [hsame]
  intro hexact
  have hin : FoundIn "ann".toList "Ann".toList := ⟨[], ['A', 'n', 'n'], [], by decide⟩
  exact absurd (hexact ann List.mem_cons_self "Ann" rfl hin) (by decide)

end Relational
end PagedQuery
