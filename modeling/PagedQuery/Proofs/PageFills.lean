import PagedQuery.Proofs.RefusedPages
import PagedQuery.Proofs.TextPages

/-!
# What filling a page changes

A call for a page can end at its checks, in the count, or in the fetch, and what was done
before its end stays done.  So the number on the page may be new next to old rows, but
nothing else on the page changes unless all of it is filled, and the rows that are stored
never do.  What was executed is recorded, the count before the fetch.

Main results:

- Theorem `Logs.bind_answer`: records of one action after another.
- Theorem `fillBy_fills`: what a count and a fetch make of the page.
- Theorem `FillCall.perform_fills`: what any call for a page changes, however it ends.
-/

namespace PagedQuery

open PagedQuery.Action

/-! ## Calls for a page -/

/-- A call that fills the page at hand, by predicates or from a query text. -/
inductive FillCall where
  | byPredicates (call : PageCall)
  | byText (text : String) (values : List Value) (params : Entries)

namespace FillCall

variable {σ ρ : Type}

/-- Fill the page at hand. -/
def perform (r : Repository σ ρ) : FillCall → Action (Visit σ) Unit
  | byPredicates call => call.perform r
  | byText text values params => r.findPageByQuery text values params

/-- The count that the call makes for a page that asks for it. -/
def count (r : Repository σ ρ) : FillCall → Action (World σ) Int
  | byPredicates call => do
      let q ← r.createQuery (← .ofExcept call.predicates)
      r.countResult q
  | byText text values params => r.countByQuery text values params

/-- The call passes all checks that come before a count. -/
def Accepts (p : Page Value) : FillCall → Prop
  | byPredicates call =>
      0 < p.pageSize ∧ (∃ keys, p.sorts = .ok keys) ∧ ∃ ps, call.predicates = .ok ps
  | byText text values params => 0 < p.pageSize ∧ checkBindings text values params = .ok ()

/-- The record of the count; a query text may have no count text. -/
def countRecord? (entity : String) : FillCall → Option Collection.Execution
  | byPredicates _ => some ⟨.structured, entity, .count⟩
  | byText text _ _ => (countText text).toOption.map fun count => ⟨.text, count, .rows⟩

/-- The record of the fetch. -/
def fetchRecord (entity : String) : FillCall → Collection.Execution
  | byPredicates _ => ⟨.structured, entity, .rows⟩
  | byText text _ _ => ⟨.text, text, .rows⟩

/-- The records of the call when it succeeds: of the count, if the page asks for it, and of
the fetch. -/
def record? (entity : String) (auto : Bool) (call : FillCall) :
    Option (List Collection.Execution) :=
  if auto then (call.countRecord? entity).map fun e => [e, call.fetchRecord entity]
  else some [call.fetchRecord entity]

/-- The page asks for a count, and the count has given a number. -/
def HasCounted (entity : String) (v : Visit Collection.Store) (n : Int) (call : FillCall) :
    Prop :=
  call.Accepts v.page ∧ v.page.autoCount = true ∧
    ((call.count ⟨Collection.backend, entity⟩).run v.world).1 = .ok n

end FillCall

namespace Collection

open Repository

variable {α β : Type} {es es' : List Execution}

/-! ## Records of actions -/

/-- The action adds to the records of executions: all of the given ones when it succeeds,
and some of the first ones when it fails. -/
def Logs (x : Action (World Store) α) (es : List Execution) : Prop :=
  ∀ w, ∃ done, done <+: es ∧ (x.run w).2.store.executed = w.store.executed ++ done ∧
    ∀ a, (x.run w).1 = .ok a → done = es

/-- An action that always adds a record adds it when it succeeds. -/
theorem logs_always {x : Action (World Store) α}
    (h : ∀ w, (x.run w).2.store.executed = w.store.executed ++ es) : Logs x es :=
  fun w => ⟨es, List.prefix_refl es, h w, fun _ _ => rfl⟩

/-- An action that leaves the store alone adds no record. -/
theorem logs_nothing {x : Action (World Store) α}
    (h : ∀ w, (x.run w).2.store = w.store) : Logs x [] :=
  logs_always fun w => by rw [h, List.append_nil]

/-- One action after another adds the records of both, in this order. -/
theorem Logs.bind_answer {x : Action (World Store) α} {f : α → Action (World Store) β}
    (hx : Logs x es) (hf : ∀ a, (∃ w, (x.run w).1 = .ok a) → Logs (f a) es') :
    Logs (x >>= f) (es ++ es') := by
  intro w
  obtain ⟨done, hprefix, hadded, hall⟩ := hx w
  rw [run_bind]
  rcases hrun : x.run w with ⟨failure | a, w'⟩
  · rw [hrun] at hadded
    refine ⟨done, hprefix.trans (List.prefix_append es es'), hadded, ?_⟩
    rintro _ ⟨⟩
  · rw [hrun] at hadded hall
    obtain rfl := hall a rfl
    obtain ⟨done', hprefix', hadded', hall'⟩ := hf a ⟨w, by rw [hrun]⟩ w'
    refine ⟨done ++ done', List.prefix_append_right_inj done |>.2 hprefix', ?_, ?_⟩
    · exact hadded'.trans (by rw [hadded, List.append_assoc])
    · intro b hb
      rw [hall' b hb]

/-- What adds no record leaves it to what follows to add them. -/
theorem Logs.after_silent {x : Action (World Store) α} {f : α → Action (World Store) β}
    (hx : Logs x []) (hf : ∀ a, (∃ w, (x.run w).1 = .ok a) → Logs (f a) es) :
    Logs (x >>= f) es :=
  hx.bind_answer hf

/-- What has added its records may be followed by what adds none. -/
theorem Logs.bind_silent {x : Action (World Store) α} {f : α → Action (World Store) β}
    (hx : Logs x es) (hf : ∀ a, (∃ w, (x.run w).1 = .ok a) → Logs (f a) []) :
    Logs (x >>= f) es := by
  have hboth := hx.bind_answer hf
  rwa [List.append_nil] at hboth

/-- A check adds no record to those of what follows it. -/
theorem logs_check {x : Except Failure α} {f : α → Action (World Store) β}
    (hf : ∀ a, x = .ok a → Logs (f a) es) : Logs (ofExcept x >>= f) es :=
  Logs.after_silent (logs_nothing fun _ => rfl) fun a ⟨_, ha⟩ => hf a ha

variable (entity : String)

/-- Counting the rows of a query is recorded. -/
theorem logs_countResult (q : Query) :
    Logs (countResult ⟨backend, entity⟩ q) [⟨.structured, q.entity, .count⟩] := by
  apply logs_always
  intro w
  rw [countResult_run]
  change ((fetchRows q.countShape).run w).2.store.executed = _
  rw [fetchRows_run]
  rfl

/-- Fetching the rows of a query is recorded. -/
theorem logs_fetchAll {q : Query} (htransform : q.transform = none) :
    Logs (fetchAll ⟨backend, entity⟩ q) [⟨.structured, q.entity, q.projection⟩] := by
  apply logs_always
  intro w
  rw [fetchAll_run _ htransform]
  change ((fetchRows q).run w).2.store.executed = _
  rw [fetchRows_run]
  rfl

/-- Making a text query is not recorded. -/
theorem logs_createTextQuery (text : String) (values : List Value) (params : Entries) :
    Logs (createTextQuery ⟨backend, entity⟩ text values params) [] :=
  logs_check fun _ _ => logs_always fun w => (List.append_nil w.store.executed).symm

/-- Fetching the rows of a text query is recorded, also when only the first of them is
looked at. -/
theorem logs_fetchText (q : TextQuery) :
    Logs (backend.textRows q) [⟨.text, q.text, .rows⟩] := by
  apply logs_always
  intro w
  change ((fetchText q).run w).2.store.executed = _
  rw [fetchText_run]
  rfl

/-- Holding on to the first column of the first row of a text query is recorded. -/
theorem logs_fetchTextScalar (q : TextQuery) :
    Logs (fetchTextScalar ⟨backend, entity⟩ q).outcome [⟨.text, q.text, .rows⟩] := by
  apply logs_always
  intro w
  have hfetch : (backend.textRows q).run w = _ := fetchText_run q w
  simp only [fetchTextScalar, run_outcome, run_bind, hfetch]
  cases (w.store.answered q).bind (cutRows q.offset q.limit) <;> rfl

/-- Counting the rows of a query text is recorded as running its count text. -/
theorem logs_countByQuery {text : String} (values : List Value) (params : Entries)
    {e : Execution} (he : ∀ count, countText text = .ok count → e = ⟨.text, count, .rows⟩) :
    Logs (countByQuery ⟨backend, entity⟩ text values params) [e] := by
  apply logs_check
  intro count hcount
  obtain rfl := he count (countTextFor_ok hcount).1
  apply (logs_createTextQuery entity count values params).after_silent
  rintro q ⟨w, hq⟩
  obtain ⟨rfl, -⟩ := createTextQuery_ok (Prod.ext hq rfl)
  apply (logs_fetchTextScalar entity _).bind_silent
  rintro (failure | total) _
  · exact logs_nothing fun _ => rfl
  · exact logs_nothing fun _ => rfl

/-! ## A count and a fetch -/

/-- What a call makes of the page and of the store: nothing but the number and the rows of the
page change, and all of it is told by the records that belong to success and by the numbers
that the count may have given. -/
structure Fills (v : Visit Store) (record? : Option (List Execution)) (counted : Int → Prop)
    (out : Except Failure Unit × Visit Store) : Prop where
  request : out.2.page =
    { v.page with totalCount := out.2.page.totalCount, result := out.2.page.result }
  number : ∀ n, counted n → out.2.page.totalCount = n
  oldNumber : (¬∃ n, counted n) → out.2.page.totalCount = v.page.totalCount
  filled : out.1 = .ok () →
    (out.2.page.result.length : Int) ≤ v.page.pageSize ∧
    (v.page.autoCount = true ↔ ∃ n, counted n) ∧
    ∃ record, record? = some record ∧
      out.2.world.store.executed = v.world.store.executed ++ record
  unfilled : ∀ failure, out.1 = .error failure →
    out.2.page.result = v.page.result ∧
    ∃ done, done <+: record?.getD [] ∧
      out.2.world.store.executed = v.world.store.executed ++ done

/-- A call that fails before it has done anything, and so has not counted. -/
theorem fills_nothing {v : Visit Store} {record? : Option (List Execution)}
    {counted : Int → Prop} {failure : Failure} (hcounted : ¬∃ n, counted n) :
    Fills v record? counted (.error failure, v) where
  request := rfl
  number := fun n hn => absurd ⟨n, hn⟩ hcounted
  oldNumber := fun _ => rfl
  filled := by rintro ⟨⟩
  unfilled := fun _ _ => ⟨rfl, [], List.nil_prefix, (List.append_nil _).symm⟩

/-- Fill the page with fetched rows, after a count if it asks for one. -/
def fillBy (count : Action (World Store) Int) (fetch : Action (World Store) (List Value))
    (auto : Bool) : Action (Visit Store) Unit := do
  if auto then
    noteCount ⟨backend, entity⟩ (← outside count)
  noteRows ⟨backend, entity⟩ (← outside fetch)

/-- Fetched rows are put on a page, no more than it has room for; without them the page
stays as it is.  What was done before the fetch may have changed the number on the page. -/
theorem noteFetched_fills {fetch : Action (World Store) (List Value)} (hfetch : Logs fetch es')
    {v v' : Visit Store} {counted : Int → Prop} (before : List Execution) (total : Int)
    (hpage : v'.page = { v.page with totalCount := total })
    (hadded : v'.world.store.executed = v.world.store.executed ++ before)
    (hnumber : ∀ n, counted n → total = n)
    (hold : (¬∃ n, counted n) → total = v.page.totalCount)
    (hauto : v.page.autoCount = true ↔ ∃ n, counted n)
    (hroom : ∀ w rows, (fetch.run w).1 = .ok rows → (rows.length : Int) ≤ v.page.pageSize) :
    Fills v (some (before ++ es')) counted
      ((outside fetch >>= noteRows ⟨backend, entity⟩).run v') := by
  obtain ⟨done, hprefix, hfetched, hall⟩ := hfetch v'.world
  rw [hadded, List.append_assoc] at hfetched
  rw [run_bind, outside_run]
  rcases hrun : fetch.run v'.world with ⟨failure | rows, w⟩
  · rw [hrun] at hfetched
    constructor
    case request => exact hpage ▸ rfl
    case number => exact fun n hn => hpage ▸ hnumber n hn
    case oldNumber => exact fun hnone => hpage ▸ hold hnone
    case filled => rintro ⟨⟩
    case unfilled =>
      refine fun _ _ => ⟨hpage ▸ rfl, before ++ done, ?_, hfetched⟩
      exact (List.prefix_append_right_inj before).2 hprefix
  · rw [hrun] at hfetched hall
    obtain rfl := hall rows rfl
    obtain ⟨w', hnote, hw'⟩ := noteRows_run ⟨backend, entity⟩ rows { v' with world := w }
    simp only [hnote]
    constructor
    case request => exact hpage ▸ rfl
    case number => exact fun n hn => hpage ▸ hnumber n hn
    case oldNumber => exact fun hnone => hpage ▸ hold hnone
    case filled =>
      refine fun _ => ⟨hroom v'.world rows (by rw [hrun]), hauto, _, rfl, ?_⟩
      exact (congrArg Store.executed hw').trans hfetched
    case unfilled => rintro _ ⟨⟩

/-- A count and a fetch fill the page.  When the fetch fails, the number that was counted is
on the page already. -/
theorem fillBy_fills {count : Action (World Store) Int}
    {fetch : Action (World Store) (List Value)} {e e' : Execution} (hcount : Logs count [e])
    (hfetch : Logs fetch [e']) (v : Visit Store)
    (hroom : ∀ w rows, (fetch.run w).1 = .ok rows → (rows.length : Int) ≤ v.page.pageSize) :
    Fills v (some (if v.page.autoCount then [e, e'] else [e']))
      (fun n => v.page.autoCount = true ∧ (count.run v.world).1 = .ok n)
      ((fillBy entity count fetch v.page.autoCount).run v) := by
  cases hauto : v.page.autoCount with
  | false =>
      apply noteFetched_fills entity hfetch [] v.page.totalCount rfl
        (List.append_nil _).symm _ _ _ hroom
      · exact fun n hn => absurd hn.1 Bool.false_ne_true
      · exact fun _ => rfl
      · simp [hauto]
  | true =>
      obtain ⟨done, hprefix, hadded, hall⟩ := hcount v.world
      simp only [fillBy, if_true, run_bind, outside_run, true_and]
      rcases hrun : count.run v.world with ⟨failure | n, w⟩
      · rw [hrun] at hadded
        constructor
        case request => rfl
        case number => rintro _ ⟨⟩
        case oldNumber => exact fun _ => rfl
        case filled => rintro ⟨⟩
        case unfilled =>
          exact fun _ _ => ⟨rfl, done, hprefix.trans (List.prefix_append [e] [e']), hadded⟩
      · rw [hrun] at hadded hall
        obtain rfl := hall n rfl
        obtain ⟨w', hnote, hw'⟩ := noteCount_run ⟨backend, entity⟩ n { v with world := w }
        have hfills : Fills v (some ([e] ++ [e']))
            (fun m => (.ok n : Except Failure Int) = .ok m)
            ((outside fetch >>= noteRows ⟨backend, entity⟩).run
              ⟨w', { v.page with totalCount := n }⟩) := by
          refine noteFetched_fills entity hfetch [e] n rfl
            ((congrArg Store.executed hw').trans hadded) ?_ ?_ ?_ hroom
          · exact fun _ hn => Except.ok.inj hn
          · exact fun hnone => absurd ⟨n, rfl⟩ hnone
          · exact iff_of_true hauto ⟨n, rfl⟩
        simp only [hnote]
        exact hfills

/-! ## Fetching the rows of a page -/

section

variable {entity}

/-- No more rows than the limit are answered to a query. -/
theorem answer_length {q : Query} {offset limit : Nat} (hprojection : q.projection = .rows)
    (hoffset : q.offset = some (.whole offset)) (hlimit : q.limit = some (.whole limit))
    {stored rows : List Value} (h : answer q stored = .ok rows) : rows.length ≤ limit := by
  unfold answer at h
  rw [hprojection, hoffset, hlimit] at h
  split at h
  · cases h
  · obtain ⟨sorted, -, hcut⟩ := bind_eq_ok h
    rw [cutRows_whole] at hcut
    cases hcut
    exact List.length_take_le _ _

/-- The rows that are fetched for a page have room on it. -/
theorem fetchAll_room {p : Page Value} (hsize : 0 < p.pageSize) {ps : List Predicate}
    {keys : List SortKey} {w : World Store} {rows : List Value}
    (h : ((fetchAll ⟨backend, entity⟩ (pageQuery ⟨backend, entity⟩ ps keys p)).run w).1 =
      .ok rows) : (rows.length : Int) ≤ p.pageSize := by
  rw [fetchAll_run _ rfl] at h
  change ((fetchRows _).run w).1 = _ at h
  rw [fetchRows_run] at h
  obtain ⟨stored, -, hanswer⟩ := bind_eq_ok h
  have hlength := answer_length rfl rfl rfl hanswer
  omega

variable {text : String} {values : List Value} {params : Entries}

/-- The rows of a query text for a page. -/
def fetchTextPage (entity text : String) (values : List Value) (params : Entries)
    (p : Page Value) : Action (World Store) (List Value) := do
  let q ← createTextQuery ⟨backend, entity⟩ text values params
  backend.textRows { q with
    offset := some (.whole (p.first - 1).toNat)
    limit := some (.whole p.pageSize.toNat) }

/-- Fetching the rows of a query text for a page is recorded. -/
theorem logs_fetchTextPage (p : Page Value) :
    Logs (fetchTextPage entity text values params p) [⟨.text, text, .rows⟩] := by
  apply (logs_createTextQuery entity text values params).after_silent
  rintro q ⟨w, hq⟩
  obtain ⟨rfl, -⟩ := createTextQuery_ok (Prod.ext hq rfl)
  exact logs_fetchText _

/-- The rows of a query text that are fetched for a page have room on it. -/
theorem fetchTextPage_room {p : Page Value} (hsize : 0 < p.pageSize) {w : World Store}
    {rows : List Value}
    (h : ((fetchTextPage entity text values params p).run w).1 = .ok rows) :
    (rows.length : Int) ≤ p.pageSize := by
  obtain ⟨q, w₁, -, hfetch⟩ := Action.run_bind_eq_ok (Prod.ext h rfl)
  obtain ⟨hcut, -⟩ := Prod.mk.inj ((fetchText_run _ _).symm.trans hfetch)
  obtain ⟨answered, -, hcut⟩ := bind_eq_ok hcut
  rw [cutRows_whole] at hcut
  cases hcut
  have hlength := List.length_take_le p.pageSize.toNat
    (answered.drop (p.first - 1).toNat)
  omega

/-! ## Calls -/

variable {v : Visit Store}

/-- A page that is accepted is filled by predicates with a count and a fetch. -/
theorem findPage_fillBy {ps : List Predicate} {keys : List SortKey}
    (hsize : 0 < v.page.pageSize) (hkeys : v.page.sorts = .ok keys) :
    (findPage ⟨backend, entity⟩ ps).run v =
      (fillBy entity (countResult ⟨backend, entity⟩ (plainQuery ⟨backend, entity⟩ ps))
        (fetchAll ⟨backend, entity⟩ (pageQuery ⟨backend, entity⟩ ps keys v.page))
        v.page.autoCount).run { v with world := v.world.updateStore Store.opened } := by
  rw [findPage_accepted _ hsize hkeys rfl]
  rfl

/-- A page that is accepted is filled from a query text with a count and a fetch. -/
theorem findPageByQuery_fillBy (hsize : 0 < v.page.pageSize)
    (hbindings : checkBindings text values params = .ok ()) :
    (findPageByQuery ⟨backend, entity⟩ text values params).run v =
      (fillBy entity (countByQuery ⟨backend, entity⟩ text values params)
        (fetchTextPage entity text values params v.page) v.page.autoCount).run v := by
  have hcheck : checkPageSize v.page = .ok () := by
    simp [checkPageSize, Int.not_le.2 hsize]
  -- Making the query, cutting out the slice and fetching is one action on the store.
  have hfetch : ∀ v' : Visit Store,
      (do
        let q ← outside (createTextQuery ⟨backend, entity⟩ text values params)
        let q ← .ofExcept (q.setOffset (.int (v.page.first - 1)))
        let q ← .ofExcept (q.setLimit (.int v.page.pageSize))
        noteRows ⟨backend, entity⟩ (← outside (backend.textRows q)) :
          Action (Visit Store) Unit).run v' =
      (outside (fetchTextPage entity text values params v.page) >>=
        noteRows ⟨backend, entity⟩).run v' := by
    intro v'
    simp only [setTextOffset_first hsize, setTextLimit_pageSize hsize, ofExcept_ok_bind,
      fetchTextPage, run_bind, outside_run]
    rcases (createTextQuery ⟨backend, entity⟩ text values params).run v'.world with
      ⟨failure | q, w⟩ <;> rfl
  simp only [findPageByQuery, fillBy, run_bind _ _ v, run_state, run_ofExcept, hcheck, hbindings]
  cases v.page.autoCount with
  | false => exact hfetch v
  | true =>
      simp only [if_true, run_bind _ _ v, outside_run]
      rcases (countByQuery ⟨backend, entity⟩ text values params).run v.world with
        ⟨failure | total, w⟩
      · rfl
      · exact hfetch _

end

end Collection

open Collection

namespace FillCall

variable (entity : String) {v : Visit Store}

/-- A call that does not pass its checks leaves everything as it is. -/
theorem perform_unaccepted {call : FillCall} (h : ¬call.Accepts v.page) :
    ∃ failure, (call.perform ⟨backend, entity⟩).run v = (.error failure, v) := by
  cases call with
  | byPredicates call =>
      rw [perform, call.perform_eq, run_bind, run_ofExcept]
      cases hpredicates : call.predicates with
      | error failure => exact ⟨failure, rfl⟩
      | ok ps =>
          simp only [Repository.findPage, run_bind, run_state, run_ofExcept]
          cases hcheck : checkPageSize v.page with
          | error failure => exact ⟨failure, rfl⟩
          | ok _ =>
              cases hsorts : v.page.sorts with
              | error failure => exact ⟨failure, rfl⟩
              | ok keys =>
                  exact absurd ⟨checkPageSize_ok hcheck, ⟨keys, hsorts⟩, ps, hpredicates⟩ h
  | byText text values params =>
      simp only [perform, Repository.findPageByQuery, run_bind, run_state, run_ofExcept]
      cases hcheck : checkPageSize v.page with
      | error failure => exact ⟨failure, rfl⟩
      | ok _ =>
          cases hbindings : checkBindings text values params with
          | error failure => exact ⟨failure, rfl⟩
          | ok _ => exact absurd ⟨checkPageSize_ok hcheck, hbindings⟩ h

/-- The record of the count of a query text is that of its count text. -/
theorem countRecord?_byText {text count : String} {values : List Value} {params : Entries}
    (h : countText text = .ok count) :
    (byText text values params).countRecord? entity = some ⟨.text, count, .rows⟩ := by
  rw [countRecord?, h]
  rfl

/-- A call that passes its checks counts when the page asks for it, and then fetches. -/
theorem perform_accepted {call : FillCall} (h : call.Accepts v.page) {e : Execution}
    (he : ∀ e', call.countRecord? entity = some e' → e = e') :
    Fills v (some (if v.page.autoCount then [e, call.fetchRecord entity]
        else [call.fetchRecord entity])) (call.HasCounted entity v ·)
      ((call.perform ⟨backend, entity⟩).run v) := by
  have hcounted : (call.HasCounted entity v ·) = fun n => v.page.autoCount = true ∧
      ((call.count ⟨backend, entity⟩).run v.world).1 = .ok n :=
    funext fun n => propext (and_iff_right h)
  rw [hcounted]
  cases call with
  | byPredicates call =>
      obtain ⟨hsize, ⟨keys, hkeys⟩, ps, hpredicates⟩ := h
      obtain rfl := he _ rfl
      have hperform : (call.perform ⟨backend, entity⟩).run v =
          (Repository.findPage ⟨backend, entity⟩ ps).run v := by
        rw [call.perform_eq, hpredicates, ofExcept_ok_bind]
      have hcount : ((byPredicates call).count ⟨backend, entity⟩).run v.world =
          (Repository.countResult ⟨backend, entity⟩
            (Repository.plainQuery ⟨backend, entity⟩ ps)).run
              (v.world.updateStore Store.opened) := by
        rw [count, hpredicates]
        rfl
      rw [perform, hperform, findPage_fillBy hsize hkeys, hcount]
      have hfills := fillBy_fills entity
        (logs_countResult entity (Repository.plainQuery ⟨backend, entity⟩ ps))
        (logs_fetchAll entity (q := Repository.pageQuery ⟨backend, entity⟩ ps keys v.page) rfl)
        { v with world := v.world.updateStore Store.opened }
        fun _ _ hrows => fetchAll_room hsize hrows
      exact ⟨hfills.request, hfills.number, hfills.oldNumber, hfills.filled, hfills.unfilled⟩
  | byText text values params =>
      obtain ⟨hsize, hbindings⟩ := h
      rw [perform, findPageByQuery_fillBy hsize hbindings]
      exact fillBy_fills entity
        (logs_countByQuery entity values params fun _ hcount =>
          he _ (countRecord?_byText entity hcount))
        (logs_fetchTextPage v.page) v fun _ _ hrows => fetchTextPage_room hsize hrows

/-- A page that asks for a count is not filled from a query text that has no count text, and
everything stays as it is. -/
theorem perform_uncountable {call : FillCall} (hauto : v.page.autoCount = true)
    (hnone : call.countRecord? entity = none) :
    (∃ failure, (call.perform ⟨backend, entity⟩).run v = (.error failure, v)) ∧
      ∀ n, ¬call.HasCounted entity v n := by
  cases call with
  | byPredicates call => cases hnone
  | byText text values params =>
      cases hcount : countText text with
      | ok count =>
          rw [countRecord?_byText entity hcount] at hnone
          cases hnone
      | error failure =>
          have hrun : (Repository.countByQuery ⟨backend, entity⟩ text values params).run
              v.world = (.error failure, v.world) := by
            rw [Repository.countByQuery, Repository.countTextFor, hcount]
            rfl
          constructor
          · by_cases haccepts : (byText text values params).Accepts v.page
            · rw [perform, findPageByQuery_fillBy haccepts.1 haccepts.2, hauto, fillBy]
              simp only [if_true, run_bind, Repository.outside_run, hrun]
              exact ⟨failure, rfl⟩
            · exact perform_unaccepted entity haccepts
          · rintro n ⟨-, -, hn⟩
            rw [count, hrun] at hn
            cases hn

/-- A call for a page keeps the stored rows. -/
theorem perform_preserves (call : FillCall) :
    (call.perform ⟨backend, entity⟩).Preserves fun v => v.world.store.collections := by
  cases call with
  | byPredicates call =>
      rw [perform, call.perform_eq]
      exact (preserves_ofExcept _).bind fun ps =>
        Repository.findPage_preserves ⟨backend, entity⟩ collection_reads ps
  | byText text values params =>
      exact Repository.findPageByQuery_preserves ⟨backend, entity⟩ collection_reads text values
        params

/-- What a call for a page changes, however it ends.  The stored rows stay as they are, and
of the page all but its number and its rows.  The number is that of the count once there is
one, also when the call fails afterwards, and the old one otherwise.  On success the page has
no more rows than room, it was counted if it asks for it, and the count and the fetch are
recorded, or the fetch alone.  On a failure the rows on the page are the old ones, and the
records are the first of those that success would have left. -/
theorem perform_fills (entity : String) (call : FillCall) (v : Visit Store) :
    ((call.perform ⟨backend, entity⟩).run v).2.world.store.collections =
      v.world.store.collections ∧
    Fills v (call.record? entity v.page.autoCount) (call.HasCounted entity v ·)
      ((call.perform ⟨backend, entity⟩).run v) := by
  refine ⟨perform_preserves entity call v, ?_⟩
  by_cases haccepts : call.Accepts v.page
  · cases hauto : v.page.autoCount with
    | false =>
        -- No count is made, so that any record may stand for it.
        have hfills := perform_accepted entity haccepts
          (e := (call.countRecord? entity).getD (call.fetchRecord entity))
          fun e' he' => by rw [he']; rfl
        rw [hauto] at hfills
        exact hfills
    | true =>
        cases hrecord : call.countRecord? entity with
        | none =>
            obtain ⟨⟨failure, hrun⟩, hcounted⟩ := perform_uncountable entity hauto hrecord
            rw [hrun]
            exact fills_nothing fun ⟨n, hn⟩ => hcounted n hn
        | some e =>
            have hfills := perform_accepted entity haccepts (e := e)
              fun e' he' => Option.some.inj (hrecord.symm.trans he')
            rw [hauto] at hfills
            rw [record?, hrecord]
            exact hfills
  · obtain ⟨failure, hrun⟩ := perform_unaccepted entity haccepts
    rw [hrun]
    exact fills_nothing fun ⟨n, hn⟩ => haccepts hn.1

end FillCall

end PagedQuery
