import PagedQuery.Proofs.Matching
import PagedQuery.Proofs.StatementRuns

/-!
# The same rows in a list and in a table

The same rows can be kept in a list, where predicates are evaluated, and in a typed
table, where a database answers them.  What is found in either place, and what is put on
a page, is stated next to each other; the database fails where its engine does not take a
statement, and the list does not.

Main results:

- Theorem `embedded_takesQuery`: what the embedded engine takes.
- Theorem `find_list`, Theorem `find_table` and Theorem `find_table_refused`: what is
  found in both places.
- Theorem `findPage_table` and Theorem `findPage_table_refused`: what a page holds that
  is filled from a table.
-/

namespace PagedQuery
namespace Relational

open Repository

variable {e : Engine} {entity name id : String} {t : Table} {rows : List Value}

/-! ## The same rows in both places -/

/-- The store keeps the rows of a table as mappings, in some order. -/
structure KeepsRows (name : String) (t : Table) (rows : List Value) (s : Collection.Store) :
    Prop where
  found : s.rows? name = some rows
  same : rows.Perm (t.records.map Record.toMapping)

/-- Every row that is kept is the mapping of a record. -/
theorem record_of_mem {s : Collection.Store} (h : KeepsRows name t rows s) {row : Value}
    (hrow : row ∈ rows) : ∃ r ∈ t.records, r.toMapping = row :=
  List.mem_map.1 (h.same.mem_iff.1 hrow)

/-- Predicates built from comparisons become conditions. -/
theorem compileAll_of_builtFrom {s : Schema} {negations : Bool} {ps : List Predicate}
    (h : ∀ p ∈ ps, p.BuiltFrom s.Compares negations) : ∃ cs ds, CompileAll s ps cs ds :=
  compileAll_of_compiles fun p hp => compiles_of_builtFrom (h p hp)

/-- Predicates built from comparisons can be evaluated on the rows of a typed table. -/
theorem evaluatesAll_of_builtFrom {s : Collection.Store} (htyped : t.IsTyped id)
    (hkept : KeepsRows name t rows s) {negations : Bool} {ps : List Predicate}
    (h : ∀ p ∈ ps, p.BuiltFrom t.schema.Compares negations) :
    ∀ row ∈ rows, Predicate.EvaluatesAll ps row := by
  intro row hrow
  obtain ⟨r, hr, rfl⟩ := record_of_mem hkept hrow
  apply Predicate.evaluatesAll_of_each
  intro p hp
  obtain ⟨met, hmet, -⟩ := settles_toMapping (h p hp) (htyped.typed r hr)
  exact ⟨met, hmet⟩

/-- The embedded engine takes every statement of comparisons that it can read. -/
theorem embedded_takesQuery {negations : Bool} {q : Query}
    (h : ∀ p ∈ q.predicates, p.BuiltFrom t.schema.Compares negations) {s : Selection Value}
    (hmade : Selection.ofQuery t.schema q = .ok s) (hreadable : Embedded.isReadable s = true) :
    Engine.embedded.TakesQuery t q := by
  obtain ⟨cs, ds, hall⟩ := compileAll_of_builtFrom h
  intro other hother
  obtain rfl : s = other := Except.ok.inj (hmade.symm.trans hother)
  obtain ⟨cs', offset, limit, hcs, -, -, rfl⟩ := ofQuery_ok hmade
  obtain rfl : cs' = cs := Except.ok.inj (hcs.symm.trans hall.made)
  refine ⟨if_pos hreadable, ?_⟩
  intro sent hsend
  obtain ⟨d, hd, -, -, rfl⟩ := Selection.send_eq_ok hsend
  obtain rfl : d = .foldConj ds :=
    Except.ok.inj (hd.symm.trans (Condition.sends_foldConj hall.sent))
  have hsearchless := Condition.searchless_foldConj hall.searchless
  refine ⟨_, if_neg ?_⟩
  simp [Condition.overruns_of_searchless hsearchless]

/-! ## Finding rows in both places -/

section

variable {negations : Bool} {ps : List Predicate}

/-- Rows kept in a list are found by evaluation. -/
theorem find_list (htyped : t.IsTyped id) {m : World Collection.Store}
    (hkept : KeepsRows name t rows m.store)
    (h : ∀ p ∈ ps, p.BuiltFrom t.schema.Compares negations) :
    ((find ⟨Collection.backend, name⟩ ps).run m).1 = .ok (Predicate.select ps rows) := by
  rw [Collection.find_matching hkept.found,
    Collection.matching_filter (evaluatesAll_of_builtFrom htyped hkept h)]

/-- Records of a table are found by their answers, when the engine takes the statement. -/
theorem find_table (htyped : t.IsTyped id) (hpresent : t.schema.present = true)
    (h : ∀ p ∈ ps, p.BuiltFrom t.schema.Compares negations) {w : World Database}
    (hserved : Serves e entity t w.store)
    (htaken : e.TakesQuery t (plainQuery ⟨backend, entity⟩ ps)) :
    ∃ shown records w', (find ⟨backend, entity⟩ ps).run w = (.ok shown, w') ∧
      records.Perm (matched t ps) ∧ List.Forall₂ Shows shown records := by
  obtain ⟨cs, ds, hall⟩ := compileAll_of_builtFrom h
  obtain ⟨shown, w', hrun, ⟨records, hperm, hshown⟩, -⟩ := find_run ⟨backend, entity⟩
    opens_serves (answers_find htyped hpresent hall htaken) hserved
  exact ⟨shown, records, w', hrun, hperm, hshown⟩

/-- A statement that the engine does not take finds nothing. -/
theorem find_table_refused (hpresent : t.schema.present = true)
    (h : ∀ p ∈ ps, p.BuiltFrom t.schema.Compares negations) {w : World Database}
    (hserved : Serves e entity t w.store)
    (hrefused : ¬e.TakesQuery t (plainQuery ⟨backend, entity⟩ ps)) :
    ∃ fault, ((find ⟨backend, entity⟩ ps).run w).1 = .error (queryFailed entity fault) := by
  obtain ⟨cs, ds, hall⟩ := compileAll_of_builtFrom h
  obtain ⟨failure, hrun, fault, rfl⟩ := find_refused ⟨backend, entity⟩ opens_serves
    (refuses_statement hpresent hall (q := plainQuery ⟨backend, entity⟩ ps) rfl rfl
      (List.forall_mem_nil _) rfl rfl rfl rfl hrefused) hserved
  exact ⟨fault, hrun⟩

end

/-! ## Pages of a table -/

/-- The engine takes the statements of a page: that of its rows, and when the page counts,
that of their number. -/
structure TakesPage (e : Engine) (t : Table) (r : Repository Database Instance)
    (ps : List Predicate) (keys : List SortKey) (p : Page Value) : Prop where
  counted : p.autoCount = true → e.TakesQuery t (r.plainQuery ps).countShape
  listed : e.TakesQuery t (r.pageQuery ps keys p)

section

variable {negations : Bool} {ps : List Predicate} {keys : List SortKey} {p : Page Value}
  (hpresent : t.schema.present = true)
  (h : ∀ p ∈ ps, p.BuiltFrom t.schema.Compares negations)
  (hsize : 0 < p.pageSize) (hsorts : p.sorts = .ok keys)
  (hkeys : ∀ key ∈ keys, ∃ c, t.schema.column? key.field = some c)
  {w : World Database} (hserved : Serves e entity t w.store)
  (htyped : t.IsTyped id) (hoffset : checkLength (some (p.first - 1).toNat) = .ok ())
  (hlimit : checkLength (some p.pageSize.toNat) = .ok ())

include hpresent h hsize hsorts hkeys hserved htyped hoffset hlimit

/-- A page holds its slice of the ordered records, when the engine takes its statements. -/
theorem findPage_table (htaken : TakesPage e t ⟨backend, entity⟩ ps keys p) :
    ∃ shown records w', (findPage ⟨backend, entity⟩ ps).run ⟨w, p⟩ = (.ok (), ⟨w', { p with
        totalCount := if p.autoCount then ((matched t ps).length : Int) else p.totalCount
        result := shown }⟩) ∧
      records.Perm (matched t ps) ∧ List.Forall₂ Shows shown
        (((orderRecords keys records).drop (p.first - 1).toNat).take p.pageSize.toNat) := by
  obtain ⟨cs, ds, hall⟩ := compileAll_of_builtFrom h
  obtain ⟨shown, w', hrun, ⟨records, hperm, hshown⟩, -⟩ := findPage_run ⟨backend, entity⟩
    (v := ⟨w, p⟩) opens_serves hsize hsorts
    (fun hauto => answers_countFind htyped hpresent hall (htaken.counted hauto))
    (answers_findPage htyped hpresent hall hkeys hoffset hlimit htaken.listed) hserved
  exact ⟨shown, records, w', hrun, hperm, hshown⟩

/-- A page keeps its rows when the engine does not take its statements. -/
theorem findPage_table_refused (hrefused : ¬TakesPage e t ⟨backend, entity⟩ ps keys p) :
    ∃ fault, ((findPage ⟨backend, entity⟩ ps).run ⟨w, p⟩).1 =
        .error (queryFailed entity fault) ∧
      ((findPage ⟨backend, entity⟩ ps).run ⟨w, p⟩).2.page.result = p.result := by
  obtain ⟨cs, ds, hall⟩ := compileAll_of_builtFrom h
  by_cases hcounted : p.autoCount = true →
      e.TakesQuery t (plainQuery ⟨backend, entity⟩ ps).countShape
  · have hrows : ¬e.TakesQuery t (pageQuery ⟨backend, entity⟩ ps keys p) :=
      fun hlisted => hrefused ⟨hcounted, hlisted⟩
    obtain ⟨failure, hrun, ⟨fault, rfl⟩, hresult⟩ := findPage_refused ⟨backend, entity⟩
      (v := ⟨w, p⟩) opens_serves hsize hsorts
      (fun hauto => answers_countFind htyped hpresent hall (hcounted hauto))
      (refuses_statement hpresent hall (q := pageQuery ⟨backend, entity⟩ ps keys p) rfl rfl
        hkeys rfl rfl hlimit hoffset hrows) hserved
    exact ⟨fault, hrun, hresult⟩
  · obtain ⟨hauto, hcount⟩ := Classical.not_imp.1 hcounted
    obtain ⟨failure, hrun, ⟨fault, rfl⟩, hresult⟩ := findPage_uncounted ⟨backend, entity⟩
      (v := ⟨w, p⟩) opens_serves hsize hsorts hauto
      (refuses_statement hpresent hall (q := (plainQuery ⟨backend, entity⟩ ps).countShape) rfl
        rfl (List.forall_mem_nil _) rfl rfl rfl rfl hcount) hserved
    exact ⟨fault, hrun, hresult⟩

end

end Relational
end PagedQuery
