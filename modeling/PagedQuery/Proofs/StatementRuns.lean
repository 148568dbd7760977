import PagedQuery.Proofs.PageRuns
import PagedQuery.Proofs.Sessions
import PagedQuery.Relational.Backend

/-!
# Runs of statements

A query on a typed table becomes a statement.  A statement that the engine takes selects
the records on which the predicates have the answer yes, and any other one is refused.
What is refused and what is answered is stated as contracts of queries.

Main results:

- Theorem `fetchRows_answered` and Theorem `fetchRows_refused`: a query ends as its
  statement does.
- Theorem `run_fails` and Theorem `runOn_fails`: a statement fails in the engine, or for
  something that is too large.
- Theorem `matched_perm`: a statement selects the records with the answer yes.
- Theorem `answers_statement`, Theorem `answers_countFind` and Theorem `answers_findPage`:
  what a database answers to the queries of a page.
- Theorem `refuses_statement`: what the engine does not take is refused.
-/

namespace PagedQuery
namespace Relational

open Repository

variable {e : Engine} {entity id : String} {t : Table}

/-! ## Queries as statements -/

/-- A database with a given engine has the table of an entity, its objects mirror the
records, and no write has failed. -/
structure Serves (e : Engine) (entity : String) (t : Table) (db : Database) : Prop where
  engine : db.engine = e
  active : db.suspended = false
  found : db.table? entity = some t
  mirrors : Mirrors t db

/-- Making a query leaves the database as it is. -/
theorem opens_serves : OpensUnder backend (Serves e entity t) :=
  fun w hw => ⟨w, rfl, hw⟩

/-- Noting a statement leaves the database as it is. -/
theorem echo_run (fields : Entries) (w : World Database) :
    ∃ w', (echo fields).run w = (.ok (), w') ∧ w'.store = w.store := by
  refine ⟨_, rfl, ?_⟩
  dsimp only
  split
  · rfl
  · rfl

/-- What is shown of what a statement selects. -/
def ShowsSelected : Selected → List Value → Prop
  | .rows rows, shown => shown = rows
  | .records records, shown => List.Forall₂ Shows shown records

/-- What was selected from a table is shown, and the table is served as before. -/
theorem present_run (htyped : t.IsTyped id) {selected : Selected}
    (hrecords : ∀ records, selected = .records records → ∀ r ∈ records, r ∈ t.records)
    {w : World Database} (hw : Serves e entity t w.store) :
    ∃ shown w', (present t.schema selected).run w = (.ok shown, w') ∧
      ShowsSelected selected shown ∧ Serves e entity t w'.store := by
  cases selected with
  | rows rows => exact ⟨rows, w, rfl, rfl, hw⟩
  | records records =>
      obtain ⟨hshown, hmirrors, htables⟩ :=
        presented_shows htyped (hrecords records rfl) hw.mirrors entity
      obtain ⟨held, label, hframe⟩ := Database.presented_frame t.schema records w.store
      refine ⟨_, _, rfl, hshown, ?_, ?_, htables.trans hw.found, hmirrors⟩
      · rw [World.store_updateStore, hframe]
        exact hw.engine
      · rw [World.store_updateStore, hframe]
        exact hw.active

/-- A query becomes its statement, which is run on the table of its entity. -/
theorem fetchRows_run {q : Query} {s : Selection Value}
    (hmade : Selection.ofQuery t.schema q = .ok s) (hpresent : t.schema.present = true)
    {w : World Database} (hw : Serves e q.entity t w.store) :
    ∃ w', w'.store = w.store ∧ (fetchRows q).run w =
      match reporting ("query on " ++ q.entity ++ " failed") (s.run e t.records) with
      | .ok selected => (present t.schema selected).run w'
      | .error failure => (.error failure, w') := by
  obtain ⟨w', hecho, hstore⟩ := echo_run [("statement", .bool true)] w
  refine ⟨w', hstore, ?_⟩
  have htable : w.store.table q.entity = .ok t := by
    rw [Database.table, hw.found]
  have hrun : runOn w.store t s = s.run e t.records := by
    rw [runOn, Database.ask, hw.active, hpresent, hw.engine]
    rfl
  simp only [fetchRows, tableOf, Action.run_bind, Action.run_state, Action.run_ofExcept,
    htable, hmade, hecho, hstore, hrun]
  cases reporting ("query on " ++ q.entity ++ " failed") (s.run e t.records) <;> rfl

/-- A query whose statement selects something shows it. -/
theorem fetchRows_answered (htyped : t.IsTyped id) {q : Query} {s : Selection Value}
    (hmade : Selection.ofQuery t.schema q = .ok s) (hpresent : t.schema.present = true)
    {selected : Selected} (hrun : s.run e t.records = .ok selected)
    (hrecords : ∀ records, selected = .records records → ∀ r ∈ records, r ∈ t.records) :
    Answers backend (Serves e q.entity t) q (ShowsSelected selected) := by
  intro w hw
  obtain ⟨w', hstore, hfetch⟩ := fetchRows_run hmade hpresent hw
  rw [hrun] at hfetch
  obtain ⟨shown, w'', hpresented, hshown, hserved⟩ :=
    present_run htyped hrecords (hstore ▸ hw : Serves e q.entity t w'.store)
  exact ⟨shown, w'', hfetch.trans hpresented, hshown, hserved⟩

/-- The report of a query that the engine refused for a reason. -/
def queryFailed (entity : String) (fault : EngineFault) : Failure :=
  .execution ("query on " ++ entity ++ " failed") [] (some (.engine fault))

/-- The failure reports a query that the engine refused. -/
def IsQueryFailure (entity : String) (failure : Failure) : Prop :=
  ∃ fault, failure = queryFailed entity fault

/-- A query whose statement is refused fails. -/
theorem fetchRows_refused {q : Query} {s : Selection Value}
    (hmade : Selection.ofQuery t.schema q = .ok s) (hpresent : t.schema.present = true)
    {fault : EngineFault} (hrun : s.run e t.records = .error (.engine fault)) :
    Refuses backend (Serves e q.entity t) q (IsQueryFailure q.entity) := by
  intro w hw
  obtain ⟨w', hstore, hfetch⟩ := fetchRows_run hmade hpresent hw
  rw [hrun] at hfetch
  exact ⟨_, w', hfetch, ⟨fault, rfl⟩, hstore ▸ hw⟩

/-! ## Running statements -/

/-- A statement is made when all properties that it names exist. -/
theorem ofQuery_made {s : Schema} {q : Query} {cs : List (Condition Value)}
    {offset limit : Option Nat}
    (hprojection : checkProperties s (projectionNames q.projection) = .ok ())
    (hpredicates : Condition.ofPredicates s q.predicates = .ok cs)
    (hsorts : checkProperties s (q.sorts.map (·.field)) = .ok ())
    (hoffset : givenAmount Amount.truncated q.offset = .ok offset)
    (hlimit : givenAmount Amount.truncated q.limit = .ok limit) :
    Selection.ofQuery s q =
      .ok ⟨s, q.projection, .foldConj cs, q.sorts, offset, limit⟩ := by
  simp only [Selection.ofQuery, hprojection, hpredicates, hsorts, hoffset, hlimit]

/-- The parts of the statement of a query. -/
theorem ofQuery_ok {schema : Schema} {q : Query} {s : Selection Value}
    (h : Selection.ofQuery schema q = .ok s) :
    ∃ cs offset limit, Condition.ofPredicates schema q.predicates = .ok cs ∧
      givenAmount Amount.truncated q.offset = .ok offset ∧
      givenAmount Amount.truncated q.limit = .ok limit ∧
      s = ⟨schema, q.projection, .foldConj cs, q.sorts, offset, limit⟩ := by
  unfold Selection.ofQuery at h
  split at h
  · cases h
  · split at h
    · cases h
    · rename_i cs hcs
      split at h
      · cases h
      · split at h
        · cases h
        · cases h
        · rename_i offset limit hoffset hlimit
          cases h
          exact ⟨cs, offset, limit, hcs, hoffset, hlimit, rfl⟩

/-- Columns of a table exist. -/
theorem checkProperties_ok {s : Schema} {names : List String}
    (h : ∀ name ∈ names, ∃ c, s.column? name = some c) : checkProperties s names = .ok () := by
  induction names with
  | nil => rfl
  | cons name names ih =>
      obtain ⟨c, hc⟩ := h name (by simp)
      rw [checkProperties, Schema.column, hc]
      exact ih fun other hother => h other (by simp [hother])

/-- A statement can be sent when its condition and its lengths can. -/
theorem send_ok {s : Selection Value} {d : Condition Cell} (hsent : Condition.Sends s.condition d)
    (hlimit : checkLength s.limit = .ok ()) (hoffset : checkLength s.offset = .ok ()) :
    s.send = .ok ⟨s.schema, s.projection, d, s.order, s.offset, s.limit⟩ := by
  rw [Condition.Sends] at hsent
  simp only [Selection.send, hsent, hlimit, hoffset]

/-- A slice has no rows of its own. -/
theorem mem_of_slice {offset limit : Option Nat} {records : List Record} {r : Record}
    (h : r ∈ slice offset limit records) : r ∈ records := by
  cases limit with
  | none => exact List.mem_of_mem_drop h
  | some n => exact List.mem_of_mem_drop (List.mem_of_mem_take h)

/-- A statement selects no records but those that are met. -/
theorem mem_of_select {s : Selection Cell} {met records : List Record}
    (h : s.select met = .records records) : ∀ r ∈ records, r ∈ met := by
  intro r hr
  rw [Selection.select] at h
  split at h
  · simp at h
  · rw [Selected.records.injEq] at h
    have hselected := (orderRecords_perm _ _).mem_iff.1 (mem_of_slice (h ▸ hr))
    exact List.mem_of_mem_filter hselected
  · simp at h

/-! ## Failures of running -/

/-- A length of a slice is too large to be sent. -/
def IsLong (offset limit : Option Nat) : Prop :=
  ∃ n, (offset = some n ∨ limit = some n) ∧ fitsInteger n = false

/-- A length cannot be sent when it is too large. -/
theorem checkLength_long {length : Option Nat} {n : Nat} (h : length = some n)
    (hlong : fitsInteger n = false) : checkLength length = .error .overflow := by
  rw [h, checkLength, hlong]
  rfl

/-- A length can be sent unless it is too large. -/
theorem checkLength_fits {length : Option Nat}
    (h : ∀ n, length = some n → fitsInteger n ≠ false) : checkLength length = .ok () := by
  cases length with
  | none => rfl
  | some n =>
      rw [checkLength, Bool.eq_true_of_not_eq_false (h n rfl)]
      rfl

/-- A length that cannot be sent is too long. -/
theorem checkLength_error {length : Option Nat} {failure : Failure}
    (h : checkLength length = .error failure) : failure = .overflow := by
  unfold checkLength at h
  split at h
  · cases h
  · split at h
    · cases h
    · cases h
      rfl

/-- A statement cannot be sent exactly when a value or a length is too large, and it
fails for that. -/
theorem send_fails {s : Selection Value} {large : Prop}
    (hlarge : large → s.condition.send = .error .overflow)
    (hfit : ¬large → ∃ d, s.condition.send = .ok d) :
    (large ∨ IsLong s.offset s.limit → s.send = .error .overflow) ∧
      (¬(large ∨ IsLong s.offset s.limit) → ∃ sent, s.send = .ok sent) := by
  constructor
  · intro hbig
    by_cases hvalue : large
    · simp only [Selection.send, hlarge hvalue]
    · obtain ⟨d, hsend⟩ := hfit hvalue
      obtain ⟨n, hoffset | hlimit, hlong⟩ := hbig.resolve_left hvalue
      · simp only [Selection.send, hsend, checkLength_long hoffset hlong]
        cases hcheck : checkLength s.limit with
        | ok _ => rfl
        | error failure => rw [checkLength_error hcheck]
      · simp only [Selection.send, hsend, checkLength_long hlimit hlong]
  · intro hsmall
    obtain ⟨hvalue, hshort⟩ := not_or.1 hsmall
    obtain ⟨d, hsend⟩ := hfit hvalue
    exact ⟨_, send_ok hsend
      (checkLength_fits fun n hn hlong => hshort ⟨n, .inr hn, hlong⟩)
      (checkLength_fits fun n hn hlong => hshort ⟨n, .inl hn, hlong⟩)⟩

/-- A statement fails in the engine, or for something that is too large; it fails for that
whenever the engine reads it. -/
theorem run_fails {s : Selection Value} {large : Prop}
    (hlarge : large → s.condition.send = .error .overflow)
    (hfit : ¬large → ∃ d, s.condition.send = .ok d) (e : Engine) (records : List Record) :
    (∀ failure, s.run e records = .error failure →
      (∃ fault, failure = .engine fault) ∨ failure = .overflow) ∧
    (s.run e records = .error .overflow ↔
      e.read s = .ok () ∧ (large ∨ IsLong s.offset s.limit)) := by
  obtain ⟨hover, hfits⟩ := send_fails hlarge hfit
  cases hread : e.read s with
  | error fault =>
      have hrun : s.run e records = .error (.engine fault) := by
        simp only [Selection.run, hread]
      rw [hrun]
      refine ⟨fun _ h => .inl ⟨fault, (Except.error.inj h).symm⟩, ?_⟩
      simp
  | ok _ =>
      by_cases hbig : large ∨ IsLong s.offset s.limit
      · have hrun : s.run e records = .error .overflow := by
          simp only [Selection.run, hread, hover hbig]
        rw [hrun]
        exact ⟨fun _ h => .inr (Except.error.inj h).symm, fun _ => ⟨rfl, hbig⟩, fun _ => rfl⟩
      · obtain ⟨sent, hsend⟩ := hfits hbig
        have hrun : s.run e records = ofEngine (e.answer sent records) := by
          simp only [Selection.run, hread, hsend]
        rw [hrun]
        cases e.answer sent records with
        | error fault =>
            refine ⟨fun _ h => .inl ⟨fault, (Except.error.inj h).symm⟩, ?_⟩
            simp [ofEngine, hbig]
        | ok selected => simp [ofEngine, hbig]

/-- The statement comes to the point at which its values are sent: the database asks its
engine, the table exists, and the engine reads the statement. -/
structure Reaches (db : Database) (t : Table) (s : Selection Value) : Prop where
  active : db.suspended = false
  present : t.schema.present = true
  read : db.engine.read s = .ok ()

/-- A statement that is run on a table fails in the engine, or for something that is too
large; it fails for that whenever it comes to the point. -/
theorem runOn_fails {s : Selection Value} {large : Prop}
    (hlarge : large → s.condition.send = .error .overflow)
    (hfit : ¬large → ∃ d, s.condition.send = .ok d) (db : Database) (t : Table) :
    (∀ failure, runOn db t s = .error failure →
      (∃ fault, failure = .engine fault) ∨ failure = .overflow) ∧
    (runOn db t s = .error .overflow ↔
      Reaches db t s ∧ (large ∨ IsLong s.offset s.limit)) := by
  by_cases hasked : db.suspended = false ∧ t.schema.present = true
  · obtain ⟨hactive, hpresent⟩ := hasked
    have hrun : runOn db t s = s.run db.engine t.records := by
      simp only [runOn, Database.ask, hactive, hpresent, Bool.false_eq_true, if_false, if_true]
    obtain ⟨hkinds, hover⟩ := run_fails hlarge hfit db.engine t.records
    rw [hrun, hover]
    refine ⟨hkinds, ?_⟩
    exact and_congr_left fun _ => ⟨fun hread => ⟨hactive, hpresent, hread⟩, Reaches.read⟩
  · have hrun : ∃ fault, runOn db t s = .error (.engine fault) := by
      unfold runOn Database.ask
      split
      · exact ⟨_, rfl⟩
      · rename_i hactive
        split
        · rename_i hpresent
          exact absurd ⟨by simpa using hactive, hpresent⟩ hasked
        · exact ⟨_, rfl⟩
    obtain ⟨fault, hrun⟩ := hrun
    rw [hrun]
    exact ⟨fun _ h => .inl ⟨fault, (Except.error.inj h).symm⟩, nofun,
      fun h => absurd ⟨h.1.active, h.1.present⟩ hasked⟩

/-! ## Selected records -/

/-- The records on which predicates have the answer yes. -/
def matched (t : Table) (ps : List Predicate) : List Record :=
  t.records.filter fun r => Predicate.answerAll ps r.toMapping == .yes

variable {ps : List Predicate} {cs : List (Condition Value)} {ds : List (Condition Cell)}

/-- Of all records, in any order, a statement selects those on which its predicates have
the answer yes. -/
theorem matched_perm (htyped : t.IsTyped id) (hall : CompileAll t.schema ps cs ds)
    {met : List Record} (hmet : met.Perm t.records) :
    (met.filter (Condition.foldConj ds).selects).Perm (matched t ps) := by
  apply (hmet.filter _).trans
  rw [matched]
  apply List.Perm.of_eq
  apply List.filter_congr
  intro r hr
  rw [Condition.selects, Condition.truth_foldConj, hall.all r (htyped.typed r hr)]

/-! ## The queries of a page -/

/-- The statement of a query that names no properties to show. -/
def statementOf (s : Schema) (cs : List (Condition Value)) (q : Query)
    (offset limit : Option Nat) : Selection Value :=
  ⟨s, q.projection, .foldConj cs, q.sorts, offset, limit⟩

/-- The same statement with its values sent. -/
def sentStatementOf (s : Schema) (ds : List (Condition Cell)) (q : Query)
    (offset limit : Option Nat) : Selection Cell :=
  ⟨s, q.projection, .foldConj ds, q.sorts, offset, limit⟩

section

variable (htyped : t.IsTyped id) (hpresent : t.schema.present = true)
  (hall : CompileAll t.schema ps cs ds) {q : Query} (hpredicates : q.predicates = ps)
  (hnames : projectionNames q.projection = [])
  (hsorts : ∀ key ∈ q.sorts, ∃ c, t.schema.column? key.field = some c)
  {offset limit : Option Nat} (hoffset : givenAmount Amount.truncated q.offset = .ok offset)
  (hlimit : givenAmount Amount.truncated q.limit = .ok limit)

include hall hpredicates hnames hsorts hoffset hlimit

/-- A query for typed records becomes a statement. -/
theorem statementOf_made :
    Selection.ofQuery t.schema q = .ok (statementOf t.schema cs q offset limit) := by
  apply ofQuery_made
  · rw [hnames]
    rfl
  · rw [hpredicates]
    exact hall.made
  · apply checkProperties_ok
    intro name hname
    rcases List.mem_map.1 hname with ⟨key, hkey, rfl⟩
    exact hsorts key hkey
  · exact hoffset
  · exact hlimit

variable (hlimitsent : checkLength limit = .ok ()) (hoffsetsent : checkLength offset = .ok ())

include hpresent hlimitsent hoffsetsent

/-- A query whose statement is not taken is refused. -/
theorem refuses_statement (hrefused : ¬e.TakesQuery t q) :
    Refuses backend (Serves e q.entity t) q (IsQueryFailure q.entity) := by
  have hmade := statementOf_made hall hpredicates hnames hsorts hoffset hlimit
  have hsend : (statementOf t.schema cs q offset limit).send =
      .ok (sentStatementOf t.schema ds q offset limit) :=
    send_ok (Condition.sends_foldConj hall.sent) hlimitsent hoffsetsent
  have hnot : ¬e.Takes (statementOf t.schema cs q offset limit) t.records := by
    intro htaken
    apply hrefused
    intro s hs
    rw [hmade, Except.ok.injEq] at hs
    exact hs ▸ htaken
  obtain ⟨fault, hrun⟩ := Selection.run_refused hsend hnot
  exact fetchRows_refused hmade hpresent hrun

include htyped

/-- A query whose statement is taken is answered by what this selects of all records, met
in some order. -/
theorem answers_statement (htaken : e.TakesQuery t q) :
    ∃ met : List Record, met.Perm t.records ∧
      Answers backend (Serves e q.entity t) q (ShowsSelected
        ((sentStatementOf t.schema ds q offset limit).select met)) := by
  have hmade := statementOf_made hall hpredicates hnames hsorts hoffset hlimit
  have hsend : (statementOf t.schema cs q offset limit).send =
      .ok (sentStatementOf t.schema ds q offset limit) :=
    send_ok (Condition.sends_foldConj hall.sent) hlimitsent hoffsetsent
  obtain ⟨met, hmet, hrun⟩ := Selection.run_taken hsend (htaken _ hmade)
  refine ⟨met, hmet, fetchRows_answered htyped hmade hpresent hrun ?_⟩
  intro records hrecords r hr
  exact hmet.mem_iff.1 (mem_of_select hrecords r hr)

end

section

variable (htyped : t.IsTyped id) (hpresent : t.schema.present = true)
  (hall : CompileAll t.schema ps cs ds)

include htyped hpresent hall

/-- Finding records shows those on which the predicates have the answer yes. -/
theorem answers_find (htaken : e.TakesQuery t (plainQuery ⟨backend, entity⟩ ps)) :
    Answers backend (Serves e entity t) (plainQuery ⟨backend, entity⟩ ps) fun shown =>
      ∃ records, records.Perm (matched t ps) ∧ List.Forall₂ Shows shown records := by
  intro w hw
  obtain ⟨met, hmet, hanswers⟩ := answers_statement htyped hpresent hall
    (q := plainQuery ⟨backend, entity⟩ ps) rfl rfl (List.forall_mem_nil _) rfl rfl rfl rfl
    htaken
  obtain ⟨shown, w', hrun, hshown, hw'⟩ := hanswers w hw
  refine ⟨shown, w', hrun, ⟨_, ?_, hshown⟩, hw'⟩
  exact (orderRecords_perm _ _).trans (matched_perm htyped hall hmet)

/-- Counting records counts those on which the predicates have the answer yes. -/
theorem answers_countFind
    (htaken : e.TakesQuery t (plainQuery ⟨backend, entity⟩ ps).countShape) :
    Answers backend (Serves e entity t) (plainQuery ⟨backend, entity⟩ ps).countShape
      (· = countRows (matched t ps).length) := by
  intro w hw
  obtain ⟨met, hmet, hanswers⟩ := answers_statement htyped hpresent hall
    (q := (plainQuery ⟨backend, entity⟩ ps).countShape) rfl rfl (List.forall_mem_nil _) rfl rfl
    rfl rfl htaken
  obtain ⟨shown, w', hrun, hshown, hw'⟩ := hanswers w hw
  refine ⟨shown, w', hrun, ?_, hw'⟩
  rw [← (matched_perm htyped hall hmet).length_eq]
  exact hshown

/-- A page shows its slice of the ordered records on which the predicates have the
answer yes. -/
theorem answers_findPage {keys : List SortKey}
    (hkeys : ∀ key ∈ keys, ∃ c, t.schema.column? key.field = some c) {p : Page Value}
    (hoffset : checkLength (some (p.first - 1).toNat) = .ok ())
    (hlimit : checkLength (some p.pageSize.toNat) = .ok ())
    (htaken : e.TakesQuery t (pageQuery ⟨backend, entity⟩ ps keys p)) :
    Answers backend (Serves e entity t) (pageQuery ⟨backend, entity⟩ ps keys p) fun shown =>
      ∃ records, records.Perm (matched t ps) ∧ List.Forall₂ Shows shown
        (((orderRecords keys records).drop (p.first - 1).toNat).take p.pageSize.toNat) := by
  intro w hw
  obtain ⟨met, hmet, hanswers⟩ := answers_statement htyped hpresent hall
    (q := pageQuery ⟨backend, entity⟩ ps keys p) rfl rfl hkeys rfl rfl hlimit hoffset htaken
  obtain ⟨shown, w', hrun, hshown, hw'⟩ := hanswers w hw
  exact ⟨shown, w', hrun, ⟨_, matched_perm htyped hall hmet, hshown⟩, hw'⟩

end

end Relational
end PagedQuery
