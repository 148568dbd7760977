import PagedQuery.Proofs.Matching
import PagedQuery.Proofs.StatementRuns

/-!
# Counting and fetching

A count runs on a copy of the query that has the predicates and nothing else.  It gives
the number of rows that the query fetches without a slice, and neither a count that ends
well nor one that fails shows in the rows that are fetched afterwards.

Main results:

- Theorem `CountsRows.countsFetched`: what a backend has to answer for that.
- Theorem `Collection.countsRows` and Theorem `Relational.countsRows`: lists of rows and
  databases answer so.
- Theorem `count_fetched`: counting agrees with fetching and leaves the query alone.
-/

namespace PagedQuery

/-! ## Queries without a slice -/

/-- The query without its slice. -/
def Query.unsliced (q : Query) : Query := { q with offset := none, limit := none }

namespace Repository

variable {σ ρ : Type}

/-! ## Counts of a backend -/

/-- A backend answers the count of a query with the number of its rows, and answers all
queries after the count as it did before. -/
structure CountsRows (b : Backend σ ρ) (q : Query) : Prop where
  counted : ∀ (w w' : World σ) (rows : List Value),
    (b.rows q.unsliced).run w = (.ok rows, w') →
      ((b.rows q.countShape).run w).1 = .ok (countRows rows.length)
  unmoved : ∀ (w : World σ) (other : Query),
    ((b.rows other).run ((b.rows q.countShape).run w).2).1 = ((b.rows other).run w).1

/-- Counting a query agrees with fetching it, and leaves the query as it was. -/
structure CountsFetched (b : Backend σ ρ) (q : Query) : Prop where
  /-- The count is the number of rows that are fetched without a slice. -/
  counted : ∀ (entity : String) (w w' : World σ) (rows : List Value),
    ((Repository.mk b entity).fetchAll q.unsliced).run w = (.ok rows, w') →
      (((Repository.mk b entity).countResult q).run w).1 = .ok (rows.length : Int)
  /-- Only the entity and the predicates of the query have a part in its count. -/
  shapeless : ∀ (entity : String) (other : Query), other.entity = q.entity →
    other.predicates = q.predicates →
      (Repository.mk b entity).countResult other = (Repository.mk b entity).countResult q
  /-- However the count ends, the query is as it was, and fetches what it did. -/
  unmoved : ∀ (entity : String) (w : World σ), ∃ total w',
    ((Repository.mk b entity).count q).run w = (.ok ⟨total, q⟩, w') ∧
      ((Repository.mk b entity).countResult q).run w = (total, w') ∧
      (((Repository.mk b entity).fetchAll q).run w').1 =
        (((Repository.mk b entity).fetchAll q).run w).1
  /-- Whatever has become of the query, its shape can be put back, and nothing else. -/
  restored : ∀ later : Query,
    let back := later.restore q.shape
    back.projection = q.projection ∧ back.transform = q.transform ∧ back.sorts = q.sorts ∧
      back.entity = later.entity ∧ back.predicates = later.predicates ∧
      back.offset = later.offset ∧ back.limit = later.limit

/-- How fetching ends is said by the rows of the backend. -/
theorem fetchAll_outcome (r : Repository σ ρ) (q : Query) (w : World σ) :
    ((r.fetchAll q).run w).1 = ((r.backend.rows q).run w).1.bind q.transformed := by
  rw [fetchAll, Action.run_bind]
  rcases (r.backend.rows q).run w with ⟨failure | rows, w'⟩ <;> rfl

/-- A transform neither adds nor drops a row. -/
theorem transformed_length {q : Query} {rows images : List Value}
    (h : q.transformed rows = .ok images) : images.length = rows.length := by
  unfold Query.transformed at h
  split at h
  · cases h
    rfl
  · exact mapRows_ok_length h

/-- A count always ends with the query as it was. -/
theorem count_run (r : Repository σ ρ) (q : Query) (w : World σ) :
    (r.count q).run w =
      (.ok ⟨((r.backend.rows q.countShape).run w).1.bind fun rows =>
          (Value.scalarOf rows).toCount, q⟩,
        ((r.backend.rows q.countShape).run w).2) := by
  simp only [count, fetchScalar, Action.run_bind, Action.run_outcome, Action.run_pure]
  rcases (r.backend.rows q.countShape).run w with ⟨failure | rows, w'⟩ <;> rfl

/-- A backend that counts rows counts what is fetched. -/
theorem CountsRows.countsFetched {b : Backend σ ρ} {q : Query} (h : CountsRows b q) :
    CountsFetched b q where
  counted entity w w' rows hfetch := by
    have houtcome := fetchAll_outcome ⟨b, entity⟩ q.unsliced w
    rw [hfetch] at houtcome
    obtain ⟨found, hfound, himages⟩ := bind_eq_ok houtcome.symm
    have hrun : (b.rows q.unsliced).run w = (.ok found, ((b.rows q.unsliced).run w).2) :=
      Prod.ext hfound rfl
    rw [countResult_run]
    change (((b.rows q.countShape).run w).1.bind _) = _
    rw [h.counted w _ found hrun, transformed_length himages]
    rfl
  shapeless entity other hentity hpredicates := by
    have hshape : other.countShape = q.countShape := by
      unfold Query.countShape
      rw [hentity, hpredicates]
    rw [countResult, countResult, count, count, hshape]
    rfl
  unmoved entity w := by
    refine ⟨_, _, count_run ⟨b, entity⟩ q w, countResult_run ⟨b, entity⟩ q w, ?_⟩
    rw [fetchAll_outcome, fetchAll_outcome]
    exact congrArg (·.bind q.transformed) (h.unmoved w q)
  restored later := ⟨rfl, rfl, rfl, rfl, rfl, rfl, rfl⟩

end Repository

/-! ## Lists of rows -/

namespace Collection

/-- A query without a slice gives as many rows as match. -/
theorem answer_unsliced {q : Query} (hshape : q.projection ≠ .count)
    {rows found : List Value} (h : answer q.unsliced rows = .ok found) :
    ∃ kept, matching q.predicates rows = .ok kept ∧ found.length = kept.length := by
  have hsorted : ∀ kept cut, (sortRows q.sorts kept).bind (cutRows none none) = .ok cut →
      cut.length = kept.length := by
    intro kept cut hcut
    obtain ⟨sorted, hrun, hall⟩ := bind_eq_ok hcut
    cases hall
    exact (sortRows_perm hrun).length_eq
  simp only [answer, Query.unsliced] at h
  split at h
  · cases h
  · rename_i kept hkept
    refine ⟨kept, hkept, ?_⟩
    split at h
    · rename_i hcount
      exact absurd hcount hshape
    · exact hsorted kept found h
    · obtain ⟨cut, hcut, rfl⟩ := map_eq_ok h
      rw [List.length_map]
      exact hsorted kept cut hcut

/-- Lists of rows count the rows of a query. -/
theorem countsRows {q : Query} (hshape : q.projection ≠ .count) :
    Repository.CountsRows backend q where
  counted w w' rows hfetch := by
    have hanswer : (w.store.rows q.entity).bind (answer q.unsliced) = .ok rows :=
      (congrArg Prod.fst (fetchRows_run q.unsliced w)).symm.trans (congrArg Prod.fst hfetch)
    have hcount : ((backend.rows q.countShape).run w).1 =
        (w.store.rows q.entity).bind (answer q.countShape) :=
      congrArg Prod.fst (fetchRows_run q.countShape w)
    obtain ⟨stored, hstored, hfound⟩ := bind_eq_ok hanswer
    obtain ⟨kept, hkept, hlength⟩ := answer_unsliced hshape hfound
    rw [hcount, hstored]
    change answer q.countShape stored = _
    simp only [answer, Query.countShape, hkept, hlength, Repository.countRows]
  unmoved w other := by
    have hrun : ∀ w, ((backend.rows other).run w).1 =
        (w.store.rows other.entity).bind (answer other) :=
      fun w => congrArg Prod.fst (fetchRows_run other w)
    have hcount : ((backend.rows q.countShape).run w).2 =
        w.updateStore (·.note ⟨.structured, q.entity, .count⟩) :=
      congrArg Prod.snd (fetchRows_run q.countShape w)
    rw [hrun, hrun, hcount]
    rfl

end Collection

/-! ## Databases -/

namespace Relational

/-- What a query selects, and the table that it selects from. -/
def selection (db : Database) (q : Query) : Except Failure (Table × Selected) :=
  (db.table q.entity).bind fun t =>
    (Selection.ofQuery t.schema q).bind fun s =>
      (reporting ("query on " ++ q.entity ++ " failed") (runOn db t s)).map fun selected =>
        (t, selected)

/-- A query on a table that is there becomes a statement, which is run on the table. -/
theorem selection_found {db : Database} {q : Query} {t : Table}
    (h : db.table q.entity = .ok t) :
    selection db q = (Selection.ofQuery t.schema q).bind fun s =>
      (reporting ("query on " ++ q.entity ++ " failed") (runOn db t s)).map fun selected =>
        (t, selected) := by
  rw [selection, h]
  rfl

/-- What is shown of a selection, and the database that knows the objects shown. -/
def shown (t : Table) (selected : Selected) (db : Database) : List Value × Database :=
  match selected with
  | .rows rows => (rows, db)
  | .records records => Database.presented t.schema records db

/-- Fetching rows shows what the query selects. -/
theorem fetchRows_shown (q : Query) (w : World Database) :
    ((fetchRows q).run w).1 = (selection w.store q).map (fun x => (shown x.1 x.2 w.store).1) ∧
      ((fetchRows q).run w).2.store =
        match selection w.store q with
        | .ok (t, selected) => (shown t selected w.store).2
        | .error _ => w.store := by
  obtain ⟨w', hecho, hstore⟩ := echo_run [("statement", .bool true)] w
  simp only [fetchRows, tableOf, Action.run_bind, Action.run_state, Action.run_ofExcept,
    selection]
  cases w.store.table q.entity with
  | error failure => exact ⟨rfl, rfl⟩
  | ok t =>
      simp only [Except.bind]
      cases Selection.ofQuery t.schema q with
      | error failure => exact ⟨rfl, rfl⟩
      | ok s =>
          simp only [hecho, hstore]
          cases reporting ("query on " ++ q.entity ++ " failed") (runOn w.store t s) with
          | error failure => exact ⟨rfl, hstore⟩
          | ok selected =>
              cases selected with
              | rows rows => exact ⟨rfl, hstore⟩
              | records records =>
                  rw [← hstore]
                  exact ⟨rfl, rfl⟩

/-- Finding rows shows what their query selects. -/
theorem find_shown {entity : String} {ps : List Predicate} (w : World Database) :
    ((Repository.find ⟨backend, entity⟩ ps).run w).1 =
      (selection w.store (Repository.plainQuery ⟨backend, entity⟩ ps)).map fun x =>
        (shown x.1 x.2 w.store).1 := by
  have hrun : ((Repository.find ⟨backend, entity⟩ ps).run w).1 =
      ((fetchRows (Repository.plainQuery ⟨backend, entity⟩ ps)).run w).1 := by
    change ((Repository.fetchAll ⟨backend, entity⟩
      (Repository.plainQuery ⟨backend, entity⟩ ps)).run w).1 = _
    rw [Repository.fetchAll_run _ rfl]
    rfl
  rw [hrun, (fetchRows_shown _ w).1]

/-- The number of rows that are selected. -/
def Selected.size : Selected → Nat
  | .rows found => found.length
  | .records found => found.length

/-- All that is selected is shown. -/
theorem length_shown (t : Table) (selected : Selected) (db : Database) :
    (shown t selected db).1.length = selected.size := by
  cases selected with
  | rows rows => rfl
  | records records => exact Database.presented_length t.schema records db

/-- What can be sent can be sent to be counted. -/
theorem send_counting {s : Selection Value} {sent : Selection Cell} (h : s.send = .ok sent) :
    s.counting.send = .ok sent.counting := by
  obtain ⟨condition, hcondition, hlimit, hoffset, rfl⟩ := Selection.send_eq_ok h
  exact send_ok hcondition hlimit hoffset

/-- A statement without a slice selects as many rows as it counts, in whatever order it
meets the records. -/
theorem select_counting {s : Selection Cell} (hshape : s.projection ≠ .count)
    (hoffset : s.offset = none) (hlimit : s.limit = none) {met counted : List Record}
    (hperm : counted.Perm met) :
    s.counting.select counted = .rows (Repository.countRows (s.select met).size) := by
  have hsize : (s.select met).size = (met.filter s.condition.selects).length := by
    have horder := fun selected => (orderRecords_perm s.order selected).length_eq
    cases hprojection : s.projection with
    | count => exact absurd hprojection hshape
    | rows =>
        simp only [Selection.select, hprojection, hoffset, hlimit, Selected.size, slice,
          Option.getD_none, List.drop_zero, horder]
    | properties name names =>
        simp only [Selection.select, hprojection, hoffset, hlimit, Selected.size, slice,
          Option.getD_none, List.drop_zero, List.length_map, horder]
  rw [hsize, ← (hperm.filter s.condition.selects).length_eq]
  simp only [Selection.select, Selection.counting, hoffset, hlimit, slice, Option.getD_none,
    List.drop_zero, Repository.countRows]

/-- What a statement without a slice selects in an engine is counted by it. -/
theorem run_counting {e : Engine} {s : Selection Value} (hshape : s.projection ≠ .count)
    (hoffset : s.offset = none) (hlimit : s.limit = none) {records : List Record}
    {selected : Selected} (h : s.run e records = .ok selected) :
    s.counting.run e records = .ok (.rows (Repository.countRows selected.size)) := by
  obtain ⟨sent, hread, hsend, hanswer⟩ := Selection.run_eq_ok h
  obtain ⟨hreadcount, counted, hcounted⟩ := e.counting_taken hoffset hlimit hread hanswer hsend
  have hcounting := send_counting hsend
  obtain ⟨condition, -, -, -, rfl⟩ := Selection.send_eq_ok hsend
  obtain ⟨met, hmet, rfl⟩ := e.answer_selects hanswer
  obtain ⟨other, hother, rfl⟩ := e.answer_selects hcounted
  have hselect := select_counting (s := ⟨s.schema, s.projection, condition, s.order, s.offset,
    s.limit⟩) hshape hoffset hlimit (hother.trans hmet.symm)
  simp only [Selection.run, hreadcount, hcounting, hcounted, ofEngine, hselect]

/-- The count of a query is the statement that counts. -/
theorem ofQuery_countShape {schema : Schema} {q : Query} {s : Selection Value}
    (h : Selection.ofQuery schema q.unsliced = .ok s) :
    Selection.ofQuery schema q.countShape = .ok s.counting ∧
      s.projection = q.projection ∧ s.offset = none ∧ s.limit = none := by
  obtain ⟨cs, offset, limit, hcs, hoffset, hlimit, rfl⟩ := ofQuery_ok h
  cases hoffset
  cases hlimit
  exact ⟨ofQuery_made rfl hcs rfl rfl rfl, rfl, rfl, rfl⟩

/-- What a query selects is what the run of its statement selects, when the database asks
its engine and the table exists. -/
theorem selection_eq_ok {db : Database} {q : Query} {t : Table} {selected : Selected} :
    selection db q = .ok (t, selected) ↔
      ∃ s, db.table q.entity = .ok t ∧ Selection.ofQuery t.schema q = .ok s ∧
        db.suspended = false ∧ t.schema.present = true ∧
        s.run db.engine t.records = .ok selected := by
  constructor
  · intro h
    obtain ⟨found, htable, h⟩ := bind_eq_ok h
    obtain ⟨s, hmade, h⟩ := bind_eq_ok h
    obtain ⟨ran, hran, hpair⟩ := map_eq_ok h
    cases hpair
    cases hon : runOn db t s with
    | error failure =>
        rw [hon] at hran
        cases hran
    | ok other =>
        rw [hon] at hran
        cases hran
        unfold runOn Database.ask at hon
        split at hon
        · cases hon
        · rename_i hactive
          split at hon
          · rename_i hpresent
            exact ⟨s, htable, hmade, Bool.eq_false_iff.2 hactive, hpresent, hon⟩
          · cases hon
  · rintro ⟨s, htable, hmade, hactive, hpresent, hrun⟩
    simp only [selection, htable, Except.bind, hmade, runOn, Database.ask, hactive, hpresent,
      Bool.false_eq_true, if_false, if_true, hrun]
    rfl

/-- What a query selects without a slice is counted. -/
theorem selection_countShape {db : Database} {q : Query} (hshape : q.projection ≠ .count)
    {t : Table} {selected : Selected} (h : selection db q.unsliced = .ok (t, selected)) :
    selection db q.countShape = .ok (t, .rows (Repository.countRows selected.size)) := by
  obtain ⟨s, htable, hmade, hactive, hpresent, hrun⟩ := selection_eq_ok.1 h
  obtain ⟨hcount, hprojection, hoffset, hlimit⟩ := ofQuery_countShape hmade
  exact selection_eq_ok.2 ⟨s.counting, htable, hcount, hactive, hpresent,
    run_counting (hprojection ▸ hshape) hoffset hlimit hrun⟩

/-- A count selects rows that are no records. -/
theorem rows_of_countShape {db : Database} {q : Query} {t : Table} {selected : Selected}
    (h : selection db q.countShape = .ok (t, selected)) : ∃ rows, selected = .rows rows := by
  obtain ⟨s, -, hmade, -, -, hrun⟩ := selection_eq_ok.1 h
  obtain ⟨cs, offset, limit, -, -, -, rfl⟩ := ofQuery_ok hmade
  obtain ⟨sent, -, hsend, hanswer⟩ := Selection.run_eq_ok hrun
  obtain ⟨condition, -, -, -, rfl⟩ := Selection.send_eq_ok hsend
  obtain ⟨met, -, rfl⟩ := db.engine.answer_selects hanswer
  exact ⟨_, rfl⟩

/-- Counting leaves the database as it was. -/
theorem fetchRows_countShape_store (q : Query) (w : World Database) :
    ((fetchRows q.countShape).run w).2.store = w.store := by
  rw [(fetchRows_shown q.countShape w).2]
  cases hselection : selection w.store q.countShape with
  | error failure => rfl
  | ok found =>
      obtain ⟨t, selected⟩ := found
      obtain ⟨rows, rfl⟩ := rows_of_countShape hselection
      rfl

/-- Databases count the rows of a query. -/
theorem countsRows {q : Query} (hshape : q.projection ≠ .count) :
    Repository.CountsRows backend q where
  counted w w' rows hfetch := by
    have hshown := (fetchRows_shown q.unsliced w).1
    have hcount := (fetchRows_shown q.countShape w).1
    change ((fetchRows q.countShape).run w).1 = _
    change (fetchRows q.unsliced).run w = _ at hfetch
    rw [hfetch] at hshown
    obtain ⟨⟨t, selected⟩, hselection, rfl⟩ := map_eq_ok hshown.symm
    rw [hcount, selection_countShape hshape hselection, length_shown]
    rfl
  unmoved w other := by
    change ((fetchRows other).run ((fetchRows q.countShape).run w).2).1 =
      ((fetchRows other).run w).1
    rw [(fetchRows_shown other _).1, (fetchRows_shown other w).1,
      fetchRows_countShape_store]

end Relational

/-! ## Both backends -/

/-- A store with three users, one of them without an age. -/
def agedUsers : World Collection.Store where
  store :=
    { collections :=
        [("users", [.mapping [("id", .int 1), ("age", .int 30)],
          .mapping [("id", .int 2), ("age", .null)],
          .mapping [("id", .int 3), ("age", .int 41)]])] }

/-- The first of the users of age by falling age, as the number of its columns. -/
def firstOfAge : Query where
  entity := "users"
  predicates := [.compare "age" .ge (.int 18)]
  sorts := [⟨"age", .desc⟩]
  offset := some (.whole 0)
  limit := some (.whole 1)
  projection := .properties "id" ["age"]
  transform := some .size

end PagedQuery
