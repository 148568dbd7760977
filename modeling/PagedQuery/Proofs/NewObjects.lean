import PagedQuery.Proofs.PageRuns
import PagedQuery.Proofs.Sessions
import PagedQuery.Proofs.ValueEquality
import PagedQuery.Relational.Directory
import PagedQuery.Relational.Backend

/-!
# New objects in a table

A new object is sent to its table as a new record.  The table takes it when no record has
its identifier, and then the object stands for that record.  A record that has the
identifier already is neither changed nor replaced: the new object is refused, and all
that was written since the last commit is taken back.

Main results:

- Theorem `heldAt?_hold`: an object is found by its key once it was put.
- Theorem `flush_error`: a write that fails suspends the database.
- Theorem `save_new`: what becomes of a new object with and without a record that has its
  identifier.
-/

namespace PagedQuery
namespace Relational

/-! ## What is sent for an object -/

/-- A sent column is found under its name, as what its value is sent as. -/
theorem lookup_sendColumns {value : Column → Value} {columns : List Column} {sent : Record}
    (h : sendColumns value columns = .ok sent) (name : String) :
    (columns.find? (·.name == name) = none ∧ sent.lookup name = none) ∨
      ∃ c cell, columns.find? (·.name == name) = some c ∧ storeValue (value c) = .ok cell ∧
        sent.lookup name = some (cell.towards c.kind) := by
  induction columns generalizing sent with
  | nil =>
      cases h
      exact .inl ⟨rfl, rfl⟩
  | cons column columns ih =>
      unfold sendColumns at h
      split at h
      · cases h
      · rename_i cell hcell
        split at h
        · cases h
        · rename_i rest hrest
          cases h
          rw [List.find?_cons, List.lookup_cons, BEq.comm (a := name)]
          cases hname : column.name == name with
          | true => exact .inr ⟨column, cell, rfl, hcell, rfl⟩
          | false => exact ih hrest

/-- Columns are sent one after another. -/
theorem sendColumns_cons {value : Column → Value} {c : Column} {columns : List Column}
    {cell : Cell} {sent : Record} (hsent : sendColumns value columns = .ok sent)
    (hcell : storeValue (value c) = .ok cell) :
    sendColumns value (c :: columns) = .ok ((c.name, cell.towards c.kind) :: sent) := by
  rw [sendColumns, hcell, hsent]

/-- What can be sent can be the key of an object. -/
theorem checkFindable_of_sent {k : Value} {cell : Cell} (h : storeValue k = .ok cell) :
    checkFindable [k] = .ok () := by
  cases k with
  | list | mapping | object | tuple => cases h
  | _ => rfl

/-- What is sent as something is equal to itself. -/
theorem agree_self_of_sent {k : Value} {cell : Cell} (h : storeValue k = .ok cell)
    (hcell : cell ≠ .null) : k.agree k = true := by
  have hnumber : ∀ x p, k.number? = some x → x.place? = some p → k.agree k = true :=
    fun x p hx hp => (Value.agree_number_iff hx).2 ⟨x, x, p, hx, hx, hp, hp⟩
  cases k with
  | null => rfl
  | text s => exact Value.agree_text_iff.2 rfl
  | date d => exact Value.agree_date_iff.2 ⟨d, rfl, d.agree_self⟩
  | bool b => exact hnumber _ _ rfl rfl
  | int n => exact hnumber _ _ rfl rfl
  | double x =>
      cases x with
      | nan =>
          cases h
          exact absurd rfl hcell
      | finite => exact hnumber _ _ rfl rfl
      | infinity negative => cases negative <;> exact hnumber _ _ rfl rfl
  | list | mapping | object | tuple => cases h

/-- A cell is equal to what was sent exactly when it stands at the same place. -/
theorem compareCells_eq {kind : ColumnKind} {cell sent : Cell} (h : sent.towards kind ≠ .null) :
    (compareCells kind .eq cell sent == some true) =
      (cell.order (sent.towards kind) == .eq) := by
  have hsent : (sent.towards kind == .null) = false := beq_false_of_ne h
  by_cases hcell : cell = .null
  · have hbelow : Cell.null.order (sent.towards kind) = .lt := by
      cases hother : sent.towards kind with
      | null => exact absurd hother h
      | _ => rfl
    rw [hcell, compareCells_null, hbelow]
    rfl
  · have hthere : (cell == .null) = false := beq_false_of_ne hcell
    simp [compareCells, hsent, hthere, Relation.accepts]

/-- Single cells are compared as keys as they are ordered. -/
theorem compareKeys_single (a b : Cell) : compareKeys [a] [b] = a.order b := by
  cases h : a.order b <;> simp [compareKeys, h]

/-- The records of a table that have an identifier. -/
def Table.recordsAt (t : Table) (k : Value) : List Record :=
  match sendKey [k] with
  | .ok sent => t.records.filter (hasSentKey t.schema sent)
  | .error _ => []

/-! ## Objects that meet the constraints of a table -/

/-- A new object with an identifier, of an entity with a single key, that meets the
constraints of the table: what it has, with defaults for what it lacks, can be sent as a
record, and the record has what the table requires. -/
structure IsNewRow (t : Table) (x : Instance) (name : String) (k : Value) (r : Record) :
    Prop where
  fresh : x.link = none
  typed : x.schema = t.schema
  present : t.schema.present = true
  keyed : t.schema.key = [name]
  carried : x.values.lookup name = some k
  given : k ≠ .null
  sent : sendColumns (fun c => fillIn c ((x.values.lookup c.name).getD .null))
    t.schema.columns = .ok r
  meets : t.admits r = true

section

variable {t : Table} {x : Instance} {name : String} {k : Value} {r : Record}

/-- The key of a record is its cell of the identifier. -/
theorem IsNewRow.keyOf (h : IsNewRow t x name k r) (row : Record) :
    t.keyOf row = [row.cell name] := by
  rw [Table.keyOf, h.keyed]
  rfl

/-- The identifier is sent as the key of the record. -/
theorem IsNewRow.key_sent (h : IsNewRow t x name k r) :
    ∃ c cell, t.schema.column? name = some c ∧ storeValue k = .ok cell ∧
      r.cell name = cell.towards c.kind ∧ r.cell name ≠ .null := by
  have hcell : r.cell name ≠ .null := by
    have hmeets := h.meets
    rw [Table.admits, h.keyOf, Bool.and_eq_true, Bool.and_eq_true] at hmeets
    simpa using hmeets.1.2
  rcases lookup_sendColumns h.sent name with ⟨-, hnone⟩ | ⟨c, cell, hc, hstored, hsome⟩
  · rw [Record.cell, hnone] at hcell
    exact absurd rfl hcell
  · have hname : c.name = name := (Schema.column?_mem hc).2
    have hfilled : fillIn c k = k := by
      unfold fillIn
      split
      · exact absurd rfl h.given
      · rfl
    simp only [hname, h.carried, Option.getD_some, hfilled] at hstored
    exact ⟨c, cell, hc, hstored, by rw [Record.cell, hsome]; rfl, hcell⟩

/-- The identifier of the object is all of its key. -/
theorem IsNewRow.valuesOf_key (h : IsNewRow t x name k r) :
    valuesOf t.schema.key x.values = [k] := by
  simp [valuesOf, h.keyed, h.carried]

/-- Looking for the identifier among records of the table is looking for the key. -/
theorem IsNewRow.hasSentKey (h : IsNewRow t x name k r) :
    ∃ sent, sendKey [k] = .ok sent ∧ ∀ row,
      Relational.hasSentKey t.schema sent row =
        (compareKeys (t.keyOf row) (t.keyOf r) == .eq) := by
  obtain ⟨c, cell, hc, hstored, hcell, hnull⟩ := h.key_sent
  have hname : c.name = name := (Schema.column?_mem hc).2
  refine ⟨[cell], by simp [sendKey, hstored], ?_⟩
  intro row
  rw [hcell] at hnull
  rw [h.keyOf, h.keyOf, compareKeys_single, hcell, Relational.hasSentKey, h.keyed]
  simp only [List.zip_cons_cons, List.zip_nil_right, List.all_cons, List.all_nil, hc,
    Bool.and_true, hname]
  exact compareCells_eq hnull

/-- The records of a table with the identifier are those with the key. -/
theorem IsNewRow.recordsAt (h : IsNewRow t x name k r) (records : List Record) :
    ({ t with records := records } : Table).recordsAt k =
      records.filter fun row => compareKeys (t.keyOf row) (t.keyOf r) == .eq := by
  obtain ⟨sent, hsent, htest⟩ := h.hasSentKey
  simp only [Table.recordsAt, hsent]
  exact congrArg (fun p => records.filter p) (funext htest)

/-- The key is taken exactly when there is a record with the identifier. -/
theorem IsNewRow.hasKey_iff (h : IsNewRow t x name k r) :
    t.hasKey (t.keyOf r) = true ↔ t.recordsAt k ≠ [] := by
  have hrecords := h.recordsAt t.records
  rw [hrecords, ne_eq, List.filter_eq_nil_iff, Table.hasKey, List.any_eq_true]
  push Not
  rfl

/-- The identifier of the object can be the key of an object. -/
theorem IsNewRow.findable (h : IsNewRow t x name k r) :
    checkFindable (valuesOf t.schema.key x.values) = .ok () := by
  obtain ⟨c, cell, -, hstored, -⟩ := h.key_sent
  rw [h.valuesOf_key, checkFindable_of_sent hstored]

/-- The engine refuses an object whose key is taken. -/
theorem insertObject_taken (h : IsNewRow t x name k r) (e : Engine)
    (htaken : t.hasKey (t.keyOf r) = true) :
    insertObject e t x.values = .error (.engine .integrity) := by
  simp only [insertObject, h.findable, h.present, h.sent, e.insert_taken h.meets htaken]
  rfl

/-- The engine puts any other object among the records, which stay in their order. -/
theorem insertObject_free (h : IsNewRow t x name k r) (e : Engine)
    (hfree : t.hasKey (t.keyOf r) = false) :
    ∃ before after, t.records = before ++ after ∧
      insertObject e t x.values = .ok ({ t with records := before ++ r :: after }, r) := by
  obtain ⟨before, after, hrecords, hinsert⟩ := e.insert_free h.meets hfree
  refine ⟨before, after, hrecords, ?_⟩
  simp only [insertObject, h.findable, h.present, h.sent, hinsert]
  rfl

end

/-! ## Tables that are put -/

/-- A table in the place of another one is found under the entity of both. -/
theorem table?_setTable (db : Database) (t : Table) (entity : String) :
    (db.setTable t).table? entity =
      (db.table? entity).map fun other =>
        if other.schema.entity == t.schema.entity then t else other := by
  have hsame : ((fun other : Table => other.schema.entity == entity) ∘ fun other =>
      if other.schema.entity == t.schema.entity then t else other) =
      fun other => other.schema.entity == entity := by
    funext other
    by_cases hentity : other.schema.entity = t.schema.entity
    · simp [hentity]
    · simp [hentity]
  rw [Database.setTable, Database.table?, List.find?_map, hsame]
  rfl

/-- A table that was put is found, and other entities keep their tables. -/
theorem table?_setTable_self {db : Database} {t u : Table}
    (h : db.table? t.schema.entity = some t) (hschema : u.schema = t.schema) :
    (db.setTable u).table? t.schema.entity = some u ∧
      ∀ entity, entity ≠ t.schema.entity →
        (db.setTable u).table? entity = db.table? entity := by
  constructor
  · rw [table?_setTable, h, hschema]
    simp
  · intro entity hother
    rw [table?_setTable, hschema]
    cases hfound : db.table? entity with
    | none => rfl
    | some other =>
        have hentity : other.schema.entity = entity := by
          simpa using List.find?_some hfound
        simp [hentity, hother]

/-! ## Objects that are known -/

/-- An object is known once it was put. -/
theorem mem_hold_self (db : Database) (x : Instance) : x ∈ (db.hold x).held := by
  unfold Database.hold
  split
  · rename_i hany
    obtain ⟨y, hy, hlabel⟩ := List.any_eq_true.1 hany
    exact List.mem_map.2 ⟨y, hy, if_pos hlabel⟩
  · simp

/-- An object is found by its key once it was put, unless another one was found before. -/
theorem heldAt?_hold {db : Database} {x : Instance} {entity : String} {key : List Value}
    (hfree : db.heldAt? entity key = none) (hstands : x.standsAt entity key = true) :
    (db.hold x).heldAt? entity key = some x := by
  rw [Database.heldAt?, List.find?_eq_none] at hfree
  cases hfound : (db.hold x).heldAt? entity key with
  | none =>
      rw [Database.heldAt?, List.find?_eq_none] at hfound
      exact absurd hstands (hfound x (mem_hold_self db x))
  | some y =>
      rcases mem_hold (List.mem_of_find?_eq_some hfound) with rfl | hy
      · rfl
      · exact absurd (List.find?_some hfound) (hfree y hy)

/-! ## Saving a new object -/

section

variable {t : Table} {x : Instance} {name : String} {k : Value} {r : Record}

/-- Put among records without its identifier, the new record is the only one with it. -/
theorem IsNewRow.recordsAt_split (h : IsNewRow t x name k r) (hfree : t.recordsAt k = [])
    {before after : List Record} (hrecords : t.records = before ++ after) :
    ({ t with records := before ++ r :: after } : Table).recordsAt k = [r] := by
  have hothers := h.recordsAt t.records
  rw [hfree, hrecords, List.filter_append] at hothers
  obtain ⟨hbefore, hafter⟩ := List.append_eq_nil_iff.1 hothers.symm
  have hself : compareKeys (t.keyOf r) (t.keyOf r) = .eq := by
    rw [h.keyOf, compareKeys_single, order_refl]
  rw [h.recordsAt, List.filter_append, List.filter_cons, hbefore, hafter, hself]
  rfl

/-- The value of a property after an object was stored: its own value, or that of the
record when it has none. -/
def Instance.kept (x : Instance) (n : String) (stored : Value) : Value :=
  match x.values.lookup n with
  | none | some .null => stored
  | some value => value

/-- What an object has stays. -/
theorem Instance.kept_of_carried {x : Instance} {n : String} {value : Value}
    (hcarried : x.values.lookup n = some value) (hvalue : value ≠ .null) (stored : Value) :
    x.kept n stored = value := by
  rw [Instance.kept, hcarried]
  cases value with
  | null => exact absurd rfl hvalue
  | _ => rfl

/-- A stored object has its values, and those of the record for what it has not. -/
theorem lookup_stored (x : Instance) (r : Record) (label : Nat) (n : String) :
    (x.stored r label).values.lookup n =
      (r.lookup n).map fun cell => x.kept n cell.toValue := by
  have hkept : ∀ entry : String × Value,
      (match x.values.lookup entry.1 with
        | none | some .null => entry
        | some value => (entry.1, value)) = (entry.1, x.kept entry.1 entry.2) := by
    intro entry
    unfold Instance.kept
    split <;> rfl
  have hmapped := lookup_map_entries hkept r.values n
  rw [lookup_values, Option.map_map] at hmapped
  exact hmapped

/-- The identifier of an object is its own, and it is the key that the object is found
by once it is stored. -/
theorem IsNewRow.standsAt_stored (h : IsNewRow t x name k r) (label : Nat) :
    (x.stored r label).standsAt t.schema.entity [k] = true := by
  obtain ⟨c, cell, -, hstored, hcell, hnull⟩ := h.key_sent
  have hrow : ∃ cell, r.lookup name = some cell := by
    cases hlookup : r.lookup name with
    | none => exact absurd (by rw [Record.cell, hlookup]; rfl) hnull
    | some cell => exact ⟨cell, rfl⟩
  obtain ⟨stored, hlookup⟩ := hrow
  have hk : x.kept name stored.toValue = k := Instance.kept_of_carried h.carried h.given _
  have hkey : valuesOf x.schema.key (x.stored r label).values = [k] := by
    simp [valuesOf, h.typed, h.keyed, lookup_stored, hlookup, hk]
  have hagree : k.agree k = true := by
    apply agree_self_of_sent hstored
    rintro rfl
    have hnothing : Cell.null.towards c.kind = .null := by
      cases c.kind <;> rfl
    exact hnull (hcell.trans hnothing)
  have hlink : (x.stored r label).link = some
      { label := label, stored := (x.stored r label).values, key := [k], home := [k] } := by
    rw [← hkey]
    rfl
  rw [Instance.standsAt, hlink]
  simp [Instance.stored, h.typed, Value.agree, Value.agreeItems, hagree]

/-! ## Runs -/

variable {w : World Database}

/-- The report of an object that could not be saved, with a broken constraint as cause. -/
def constraintBroken (entity : String) : Failure :=
  .execution ("save of " ++ entity ++ " failed") [] (some (.engine .integrity))

/-- The table of an entity is read where the database has it. -/
theorem tableOf_run {entity : String} (htable : w.store.table? entity = some t) :
    (tableOf entity).run w = (.ok t, w) := by
  simp [tableOf, Action.run_bind, Database.table, htable]

/-- The engine is asked as long as no write has failed. -/
theorem ask_active {α : Type} {db : Database} (hactive : db.suspended = false)
    (answer : Except Failure α) : db.ask answer = answer := by
  rw [Database.ask, hactive, if_neg Bool.false_ne_true]

/-- A write that fails suspends the database. -/
theorem flush_error {α : Type} (message : String) (write : Engine → Except Failure α)
    {failure : Failure} (h : w.store.ask (write w.store.engine) = .error failure) :
    (flush message write).run w =
      (.error (reported message failure), w.updateStore Database.suspend) := by
  simp only [flush, Action.run_bind, Action.run_state, h]
  rfl

/-- A write that succeeds gives what was written, and nothing else happens. -/
theorem flush_ok {α : Type} (message : String) (write : Engine → Except Failure α) {a : α}
    (h : w.store.ask (write w.store.engine) = .ok a) :
    (flush message write).run w = (.ok a, w) := by
  simp only [flush, Action.run_bind, Action.run_state, h]
  rfl

/-- The database refuses a new object whose key is taken. -/
theorem save_taken (h : IsNewRow t x name k r) (hactive : w.store.suspended = false)
    (htable : w.store.table? t.schema.entity = some t) (htaken : t.hasKey (t.keyOf r) = true) :
    (Relational.save t.schema.entity x).run w =
      (.error (constraintBroken t.schema.entity), w.updateStore Database.suspend) := by
  have hwrite : w.store.ask (insertObject w.store.engine t x.values) =
      .error (.engine .integrity) := by
    rw [ask_active hactive, insertObject_taken h w.store.engine htaken]
  have hflush := flush_error ("save of " ++ t.schema.entity ++ " failed")
    (fun e => insertObject e t x.values) hwrite
  simp only [Relational.save, Action.run_bind, h.typed, tableOf_run htable, h.fresh, hflush]
  rfl

/-- The database stores a new object whose key is not taken, and knows it from then on. -/
theorem save_free (h : IsNewRow t x name k r) (hactive : w.store.suspended = false)
    (htable : w.store.table? t.schema.entity = some t)
    (hfree : t.hasKey (t.keyOf r) = false) :
    ∃ before after, t.records = before ++ after ∧
      (Relational.save t.schema.entity x).run w =
        (.ok (x.stored r w.store.nextLabel), w.updateStore fun db =>
          (db.setTable { t with records := before ++ r :: after }).hold
            (x.stored r w.store.nextLabel)) := by
  obtain ⟨before, after, hrecords, hinsert⟩ := insertObject_free h w.store.engine hfree
  have hwrite : w.store.ask (insertObject w.store.engine t x.values) =
      .ok ({ t with records := before ++ r :: after }, r) := by
    rw [ask_active hactive, hinsert]
  have hflush := flush_ok ("save of " ++ t.schema.entity ++ " failed")
    (fun e => insertObject e t x.values) hwrite
  refine ⟨before, after, hrecords, ?_⟩
  simp only [Relational.save, Action.run_bind, h.typed, tableOf_run htable, h.fresh, hflush]
  rfl

/-- The identifier of an object is read under the only property of the key. -/
theorem identifierOf_run {entity : String} (htable : w.store.table? entity = some t)
    (y : Instance) :
    (Repository.identifierOf ⟨backend, entity⟩ y).run w =
      (t.schema.idName.map y.view.property, w) := by
  have hidName : (Relational.idName entity).run w = (t.schema.idName, w) := by
    simp [Relational.idName, Action.run_bind, tableOf_run htable]
  cases hid : t.schema.idName with
  | error failure =>
      rw [hid] at hidName
      exact Action.run_bind_error hidName
  | ok name =>
      rw [hid] at hidName
      exact Action.run_bind_ok hidName

/-- The identifier of an object is noted when the key of its entity is a single property. -/
theorem noteIdentifier_run {entity : String} (event : String)
    (htable : w.store.table? entity = some t) (hkey : t.schema.key = [name]) (y : Instance) :
    ∃ w', (do
        Repository.log (Repository.mk backend entity) .debug event
          [("entity_id", ← Repository.identifierOf (Repository.mk backend entity) y)] :
          Action (World Database) Unit).run w = (.ok (), w') ∧ w'.store = w.store := by
  have hidName : t.schema.idName = .ok name := by
    simp [Schema.idName, hkey]
  have hidentifier := identifierOf_run htable y
  rw [hidName] at hidentifier
  exact ⟨_, Action.run_bind_ok hidentifier, rfl⟩

/-- An object that is found by its key is what is got, as it is. -/
theorem get_held {entity : String} {y : Instance}
    (htable : w.store.table? entity = some t)
    (hkey : keyValues t.schema k = .ok [k]) (hfindable : checkFindable [k] = .ok ())
    (hactive : w.store.suspended = false) (hheld : w.store.heldAt? entity [k] = some y)
    (hfresh : y.link.any (·.stale) = false) :
    ∃ w', (Relational.get entity k).run w = (.ok (some y), w') := by
  have hrefreshed : w.store.refreshed y = .ok y := by
    simp [Database.refreshed, hfresh]
  simp only [Relational.get, Action.run_bind, tableOf_run htable, Action.run_ofExcept,
    reporting, hkey, hfindable, Action.run_state, Database.ask, hactive, Bool.false_eq_true,
    if_false, hheld, hrefreshed]
  exact ⟨_, rfl⟩

/-- The identifier is all that is given to find the object. -/
theorem IsNewRow.keyValues (h : IsNewRow t x name k r) :
    keyValues t.schema k = .ok [k] := by
  obtain ⟨c, cell, -, hstored, -⟩ := h.key_sent
  cases k with
  | list | mapping | object | tuple => cases hstored
  | _ => simp [Relational.keyValues, h.keyed]

/-- What becomes of a new object.  When a record has its identifier already, saving the
object fails with a broken constraint, and the database goes back to its last commit and
is suspended.  Otherwise the object becomes the only record with its identifier, among the
records that were there before, and no other table changes; and unless the database knows
another object by that identifier, what is got by it has the values of the object, and
those of the record where the object has none. -/
theorem save_new (hactive : w.store.suspended = false)
    (htable : w.store.table? t.schema.entity = some t) (h : IsNewRow t x name k r) :
    (t.recordsAt k ≠ [] →
      (Repository.save ⟨backend, t.schema.entity⟩ x).run w =
        (.error (constraintBroken t.schema.entity), w.updateStore Database.suspend)) ∧
    (t.recordsAt k = [] →
      ∃ w' before after, (Repository.save ⟨backend, t.schema.entity⟩ x).run w = (.ok (), w') ∧
        t.records = before ++ after ∧
        w'.store.table? t.schema.entity = some { t with records := before ++ r :: after } ∧
        ({ t with records := before ++ r :: after } : Table).recordsAt k = [r] ∧
        (∀ other, other ≠ t.schema.entity →
          w'.store.table? other = w.store.table? other) ∧
        (w.store.heldAt? t.schema.entity [k] = none →
          ∃ y w'', (Repository.get ⟨backend, t.schema.entity⟩ k).run w' = (.ok (some y), w'') ∧
            ∀ n, y.values.lookup n =
              (r.lookup n).map fun cell => x.kept n cell.toValue)) := by
  constructor
  · intro htaken
    exact Action.run_bind_error (save_taken h hactive htable (h.hasKey_iff.2 htaken))
  · intro hfree
    have hkey : t.hasKey (t.keyOf r) = false :=
      Bool.eq_false_iff.2 fun htaken => h.hasKey_iff.1 htaken hfree
    obtain ⟨before, after, hrecords, hsaved⟩ := save_free h hactive htable hkey
    let t' : Table := { t with records := before ++ r :: after }
    let saved := x.stored r w.store.nextLabel
    obtain ⟨hself, hothers⟩ := table?_setTable_self (u := t') htable rfl
    obtain ⟨held, label, hhold⟩ := (w.store.setTable t').hold_frame saved
    have hfound : ((w.updateStore fun db => (db.setTable t').hold saved).store.table?
        t.schema.entity) = some t' := by
      rw [World.store_updateStore, Database.table?_hold, hself]
    obtain ⟨w', hnoted, hstore⟩ := noteIdentifier_run "entity.saved" hfound h.keyed saved
    refine ⟨w', before, after, ?_, hrecords, ?_, h.recordsAt_split hfree hrecords, ?_, ?_⟩
    · exact (Action.run_bind_ok hsaved).trans hnoted
    · rw [hstore, hfound]
    · intro other hother
      rw [hstore, World.store_updateStore, Database.table?_hold, hothers other hother]
    · intro hunknown
      obtain ⟨c, cell, -, hstored, -⟩ := h.key_sent
      have hheld : w'.store.heldAt? t.schema.entity [k] = some saved := by
        rw [hstore]
        exact heldAt?_hold hunknown (h.standsAt_stored _)
      have hstill : w'.store.suspended = false := by
        rw [hstore, World.store_updateStore, hhold]
        exact hactive
      obtain ⟨w'', hget⟩ := get_held (t := t') (by rw [hstore]; exact hfound) h.keyValues
        (checkFindable_of_sent hstored) hstill hheld rfl
      exact ⟨_, w'', hget, lookup_stored x r w.store.nextLabel⟩

end

/-- A user with an identifier and a name, as a record. -/
def userRecord (id : Int) (user : String) : Record :=
  [("id", .integer id), ("name", .text user), ("login", .text user), ("age", .integer 30),
    ("status", .text "active")]

/-- A user with an identifier and a name, as a new object. -/
def newUser (id : Int) (user : String) : Instance where
  schema := userSchema
  values := [("id", .int id), ("name", .text user), ("login", .text user), ("age", .int 30)]

/-- The table of users with one user in it. -/
def annsTable : Table := ⟨userSchema, [userRecord 1 "ann"]⟩

/-- A database with one user in it, committed. -/
def annsWorld : World Database := ⟨Database.commit { tables := [annsTable] }, []⟩

/-- A new user meets the constraints of the table, with a status by default. -/
theorem isNewRow_newUser {id : Int} (hfits : fitsInteger id = true) (user : String) :
    IsNewRow annsTable (newUser id user) "id" (.int id) (userRecord id user) where
  fresh := rfl
  typed := rfl
  present := rfl
  keyed := rfl
  carried := rfl
  given := by simp
  sent := by
    have hid : storeValue (.int id) = .ok (.integer id) := if_pos hfits
    have hothers : sendColumns
        (fun c => fillIn c (((newUser id user).values.lookup c.name).getD .null))
        userSchema.columns.tail = .ok (userRecord id user).tail := rfl
    exact sendColumns_cons (c := { name := "id", kind := .integer }) hothers hid
  meets := rfl

/-- A second user is stored beside the first one. -/
theorem save_new_second :
    ∃ w', (Repository.save ⟨backend, "User"⟩ (newUser 2 "cyd")).run annsWorld = (.ok (), w') ∧
      ∃ t', w'.store.table? "User" = some t' ∧ t'.recordsAt (.int 2) = [userRecord 2 "cyd"] := by
  have hnew : IsNewRow annsTable (newUser 2 "cyd") "id" (.int 2) (userRecord 2 "cyd") :=
    isNewRow_newUser (by decide) "cyd"
  obtain ⟨w', before, after, hsave, -, htable, hone, -⟩ :=
    (save_new (w := annsWorld) rfl rfl hnew).2 rfl
  exact ⟨w', hsave, _, htable, hone⟩

/-- A new user with the identifier of another one does not take its place: saving it
fails, and the other one is still there. -/
theorem save_sameIdentifier_fails :
    IsNewRow annsTable (newUser 1 "bob") "id" (.int 1) (userRecord 1 "bob") ∧
      (Repository.save ⟨backend, "User"⟩ (newUser 1 "bob")).run annsWorld =
        (.error (constraintBroken "User"), annsWorld.updateStore Database.suspend) ∧
      annsWorld.store.suspend.table? "User" = some annsTable ∧
      annsTable.recordsAt (.int 1) = [userRecord 1 "ann"] :=
  ⟨isNewRow_newUser (by decide) "bob", rfl, rfl, rfl⟩

end Relational
end PagedQuery
