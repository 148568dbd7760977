import PagedQuery.Proofs.Counting
import PagedQuery.Proofs.Preservation
import PagedQuery.Proofs.PutEntries
import PagedQuery.Proofs.RefusedCalls

/-!
# Pages of a query text

A counted page of a query text runs two texts: the count text, and then the text itself.
Both of them get the bindings of the call.  As the count text has all placeholders of the
text, what it leaves out has none, and every value goes to the same place in both texts.

Main results:

- Theorem `countText_parts`: a count text keeps one stretch of its query text.
- Theorem `parts_aligned`: when no placeholder is lost, they stand at the same places.
- Theorem `findPageByQuery_reordered`: the sort request of the page plays no part.
- Theorem `findPageByQuery_bound`: what a counted page of a query text runs, and what is
  on the page afterwards.
-/

namespace PagedQuery

open Text

/-! ## What a count text keeps -/

/-- Keywords start inside the text. -/
theorem keywordStarts_lt {starts : List Char → Bool} {position : Nat} {inWord : Bool}
    {cs : List Char} {i : Nat} (h : i ∈ keywordStarts starts position inWord cs) :
    i < position + cs.length := by
  induction cs generalizing position inWord with
  | nil => exact absurd h List.not_mem_nil
  | cons c cs ih =>
      rw [List.length_cons]
      simp only [keywordStarts] at h
      split at h
      · rcases List.mem_cons.1 h with rfl | hrest
        · omega
        · have := ih hrest
          omega
      · have := ih h
        omega

/-- The parts of a query text with a count text: what stands before its only `from`, what
is counted, and what stands from its `order by` on, which may be missing. -/
structure CountParts (text count : String) (head body tail : List Char) : Prop where
  whole : text.toList = head ++ body ++ tail
  counted : count.toList = countSelect ++ body
  start : fromStarts text.toList = [head.length]
  stop : (orderByStarts text.toList = [] ∧ tail = []) ∨
    orderByStarts text.toList = [(head ++ body).length]

/-- A count text keeps one stretch of its query text. -/
theorem countText_parts {text count : String} (h : countText text = .ok count) :
    ∃ head body tail, CountParts text count head body tail := by
  have hchars : countChars text.toList = .ok count.toList := by
    unfold countText at h
    split at h
    · rename_i cs hcs
      cases h
      rw [hcs, String.toList_ofList]
    · cases h
  have hstart : ∀ start, fromStarts text.toList = [start] →
      (text.toList.take start).length = start := by
    intro start hfrom
    have hlt := keywordStarts_lt (show start ∈ fromStarts text.toList by simp [hfrom])
    rw [List.length_take]
    omega
  unfold countChars at hchars
  split at hchars
  · cases hchars
  · rename_i start hfrom horder
    refine ⟨text.toList.take start, text.toList.drop start, [], ?_, ?_, ?_, .inl ⟨horder, rfl⟩⟩
    · rw [List.take_append_drop, List.append_nil]
    · exact (Except.ok.inj hchars).symm
    · rw [hstart start hfrom, hfrom]
  · rename_i start stop hfrom horder
    split at hchars
    · cases hchars
    · rename_i hafter
      have hlt := keywordStarts_lt (show stop ∈ orderByStarts text.toList by simp [horder])
      -- The stretch ends behind its start, so it begins as the text up to its end does.
      have hhead : text.toList.take start = (text.toList.take stop).take start := by
        rw [List.take_take, Nat.min_eq_left (Nat.not_lt.1 hafter)]
      refine ⟨text.toList.take start, (text.toList.take stop).drop start,
        text.toList.drop stop, ?_, ?_, ?_, .inr ?_⟩
      · rw [hhead, List.take_append_drop, List.take_append_drop]
      · exact (Except.ok.inj hchars).symm
      · rw [hstart start hfrom, hfrom]
      · rw [hhead, List.take_append_drop, horder, List.length_take, Nat.min_eq_left (by omega)]
  · cases hchars

/-- When a count text has all placeholders of its query text, what it leaves out has none,
and both texts have their placeholders at the same places of what is counted. -/
theorem parts_aligned {text count : String} {head body tail : List Char}
    (h : CountParts text count head body tail)
    (hplaces : placeholders count = placeholders text) :
    '?' ∉ head ∧ '?' ∉ tail ∧
      count.toList.idxsOf '?' = (body.idxsOf '?').map (· + countSelect.length) ∧
      text.toList.idxsOf '?' = (body.idxsOf '?').map (· + head.length) := by
  have hselect : '?' ∉ countSelect := by decide
  have hcounts : head.count '?' = 0 ∧ tail.count '?' = 0 := by
    rw [placeholders, placeholders, h.whole, h.counted, List.count_append, List.count_append,
      List.count_append, List.count_eq_zero_of_not_mem hselect] at hplaces
    omega
  obtain ⟨hhead, htail⟩ := hcounts
  rw [List.count_eq_zero] at hhead htail
  have hnone : ∀ {cs : List Char} {start : Nat}, '?' ∉ cs → cs.idxsOf '?' start = [] := by
    intro cs start hcs
    rw [List.idxsOf_eq_nil_iff]
    intro c hc
    exact beq_false_of_ne fun hsame => hcs (hsame ▸ hc)
  refine ⟨hhead, htail, ?_, ?_⟩
  · rw [h.counted, List.idxsOf_append, hnone hselect, List.nil_append, List.idxsOf_start,
      Nat.zero_add]
  · rw [h.whole, List.idxsOf_append, List.idxsOf_append, hnone hhead, hnone htail,
      List.nil_append, List.append_nil, List.idxsOf_start, Nat.zero_add]

/-! ## The sort request of the page -/

namespace Action

variable {ω α β : Type} {f : ω → ω}

/-- The action does the same before and after a change of the state. -/
def Commutes (f : ω → ω) (x : Action ω α) : Prop :=
  ∀ w, x.run (f w) = ((x.run w).1, f (x.run w).2)

/-- Ending as a computation without state ends goes with every change. -/
theorem commutes_ofExcept (x : Except Failure α) : (ofExcept x).Commutes f := fun _ => rfl

/-- One action after another goes with what both of them go with. -/
theorem Commutes.bind {x : Action ω α} {g : α → Action ω β} (hx : x.Commutes f)
    (hg : ∀ a, (g a).Commutes f) : (x >>= g).Commutes f := by
  intro w
  rw [run_bind, run_bind, hx w]
  rcases x.run w with ⟨failure | a, w'⟩
  · rfl
  · exact hg a w'

/-- What looks at the state goes with a change that it cannot see. -/
theorem commutes_state {g : ω → Action ω β} (hblind : ∀ w, g (f w) = g w)
    (hg : ∀ w, (g w).Commutes f) : (state >>= g).Commutes f := by
  intro w
  change (g (f w)).run (f w) = _
  rw [hblind w]
  exact hg w w

end Action

/-- The page with another sort request. -/
def Page.reordered {α : Type} (p : Page α) (fields : Option String)
    (directions : Option (List Direction)) : Page α :=
  { p with orderBy := fields, order := directions }

/-- The visit with another sort request on its page. -/
def Visit.reordered {σ : Type} (v : Visit σ) (fields : Option String)
    (directions : Option (List Direction)) : Visit σ :=
  { v with page := v.page.reordered fields directions }

open PagedQuery.Action

namespace Repository

variable {σ ρ : Type} (r : Repository σ ρ) (fields : Option String)
  (directions : Option (List Direction))

/-- The world of a visit does not know the page. -/
theorem outside_commutes {α : Type} (x : Action (World σ) α) :
    (outside x).Commutes (Visit.reordered · fields directions) := fun _ => rfl

/-- A page of a query text is filled alike, whatever its sort request. -/
theorem findPageByQuery_reordered (text : String) (values : List Value) (params : Entries) :
    (r.findPageByQuery text values params).Commutes
      (Visit.reordered · fields directions) := by
  have hrows : ∀ rows, (r.noteRows rows).Commutes (Visit.reordered · fields directions) :=
    fun _ _ => rfl
  have hfill : ∀ p : Page Value,
      (do
        let q ← outside (r.createTextQuery text values params)
        let q ← .ofExcept (q.setOffset (.int (p.first - 1)))
        let q ← .ofExcept (q.setLimit (.int p.pageSize))
        r.noteRows (← outside (r.backend.textRows q)) :
          Action (Visit σ) Unit).Commutes (Visit.reordered · fields directions) := by
    intro p
    apply (outside_commutes fields directions _).bind
    intro q
    apply (commutes_ofExcept _).bind
    intro q
    apply (commutes_ofExcept _).bind
    intro q
    exact (outside_commutes fields directions _).bind hrows
  apply commutes_state
  · exact fun _ => rfl
  · intro v
    apply (commutes_ofExcept _).bind
    intro _
    apply (commutes_ofExcept _).bind
    intro _
    cases v.page.autoCount with
    | false => exact hfill v.page
    | true =>
        apply (outside_commutes fields directions _).bind
        intro total
        have hcount : (r.noteCount total).Commutes (Visit.reordered · fields directions) :=
          fun _ => rfl
        exact hcount.bind fun _ => hfill v.page

end Repository

/-! ## Bindings -/

/-- The query carries the bindings of a call: its values by their positions from zero on,
and its params. -/
structure TextQuery.Carries (q : TextQuery) (values : List Value) (params : Entries) :
    Prop where
  positions : q.positional.map (·.1) = (List.range values.length).map Int.ofNat
  values : q.values = values
  named : q.named = params

/-- Values are numbered one after another. -/
theorem TextQuery.positions_numbered (start : Nat) (values : List Value) :
    (numbered start values).map (·.1) = (List.range' start values.length).map Int.ofNat := by
  induction values generalizing start with
  | nil => rfl
  | cons value values ih =>
      rw [numbered, List.map_cons, ih, List.length_cons, List.range'_succ, List.map_cons]
      rfl

/-- A query with bound values and params carries them. -/
theorem TextQuery.carries_bindAll (text : String) (values : List Value) {params : Entries}
    (hnames : (params.map Prod.fst).Nodup) :
    (bindAll text values params).Carries values params where
  positions := by
    rw [List.range_eq_range']
    exact positions_numbered 0 values
  values := values_bindAll text values params
  named := putEntries_of_nodup hnames

/-- A slice of the rows is asked for with the same bindings. -/
theorem TextQuery.Carries.sliced {q : TextQuery} {values : List Value} {params : Entries}
    (h : q.Carries values params) (offset limit : Option Amount) :
    ({ q with offset := offset, limit := limit } : TextQuery).Carries values params :=
  ⟨h.positions, h.values, h.named⟩

/-! ## Runs on lists of rows -/

namespace Collection

open Repository

variable {entity text : String} {values : List Value} {params : Entries}

/-- The rows that the responder of a query text answers, before a slice is cut out. -/
def Store.answered (s : Store) (q : TextQuery) : Except Failure (List Value) :=
  (s.responder q.text).bind fun
    | .fixed answer => answer.toRows
    | .computed answer => (answer q).bind Value.toRows

/-- Fetching the rows of a text cuts a slice out of what its responder answers, and all
that changes is the record of executions. -/
theorem fetchText_run (q : TextQuery) (w : World Store) :
    (fetchText q).run w = ((w.store.answered q).bind (cutRows q.offset q.limit),
      w.updateStore (·.note ⟨.text, q.text, .rows⟩)) := by
  have hresponder : (w.store.note ⟨.text, q.text, .rows⟩).responder q.text =
      w.store.responder q.text := rfl
  simp only [fetchText, note, respond, Action.run_bind, Action.run_change, Action.run_state,
    Action.run_ofExcept, World.store_updateStore, hresponder, Store.answered]
  cases w.store.responder q.text with
  | error failure => rfl
  | ok responder =>
      cases responder with
      | fixed answer => cases hrows : answer.toRows <;> simp [Except.bind, hrows]
      | computed answer =>
          cases hanswer : answer q with
          | error failure => simp [Except.bind, hanswer]
          | ok answer => cases hrows : answer.toRows <;> simp [Except.bind, hanswer, hrows]

/-- A store that has made one query more. -/
def Store.opened (s : Store) : Store := { s with created := s.created + 1 }

/-- A text query is made when its bindings are accepted. -/
theorem createTextQuery_ok {w w' : World Store} {q : TextQuery}
    (h : (createTextQuery ⟨backend, entity⟩ text values params).run w = (.ok q, w')) :
    q = .bindAll text values params ∧ w' = w.updateStore Store.opened := by
  obtain ⟨_, -, h⟩ := Action.ofExcept_bind_eq_ok h
  cases h
  exact ⟨rfl, rfl⟩

/-- A count of a query text has run its count text, with the bindings of the call. -/
theorem countByQuery_ok {w w' : World Store} {total : Int}
    (h : (countByQuery ⟨backend, entity⟩ text values params).run w = (.ok total, w')) :
    ∃ count counted, countTextFor text values = .ok count ∧
      w.store.answered (.bindAll count values params) = .ok counted ∧
      (Value.scalarOf counted).toCount = .ok total ∧
      w' = w.updateStore fun s => s.opened.note ⟨.text, count, .rows⟩ := by
  obtain ⟨count, hcount, h⟩ := Action.ofExcept_bind_eq_ok h
  obtain ⟨q, w₁, hquery, h⟩ := Action.run_bind_eq_ok h
  obtain ⟨rfl, rfl⟩ := createTextQuery_ok hquery
  obtain ⟨result, w₂, hresult, h⟩ := Action.run_bind_eq_ok h
  have hfetch : (backend.textRows (.bindAll count values params)).run
      (w.updateStore Store.opened) = (w.store.answered (.bindAll count values params),
        w.updateStore fun s => s.opened.note ⟨.text, count, .rows⟩) := by
    apply (fetchText_run _ _).trans
    rw [show (w.updateStore Store.opened).store.answered (.bindAll count values params) =
      w.store.answered (.bindAll count values params) from rfl]
    cases w.store.answered (.bindAll count values params) <;> rfl
  simp only [fetchTextScalar, Action.run_outcome, Action.run_bind, hfetch] at hresult
  cases hanswered : w.store.answered (.bindAll count values params) with
  | error failure =>
      rw [hanswered] at hresult
      cases hresult
      cases h
  | ok counted =>
      rw [hanswered] at hresult
      simp only [Action.run_pure, Prod.mk.injEq, Except.ok.injEq] at hresult
      obtain ⟨rfl, rfl⟩ := hresult
      obtain ⟨htotal, rfl⟩ := Prod.mk.inj h
      exact ⟨count, counted, hcount, hanswered, htotal, rfl⟩

/-- The query for the rows of a page of a query text. -/
def pageTextQuery (text : String) (values : List Value) (params : Entries) (p : Page Value) :
    TextQuery :=
  { TextQuery.bindAll text values params with
    offset := some (.whole (p.first - 1).toNat)
    limit := some (.whole p.pageSize.toNat) }

/-- The slice of a page runs from the rows behind the pages before it to its own last
row. -/
theorem cutRows_extract {p : Page Value} (hsize : 0 < p.pageSize) (rows : List Value) :
    cutRows (some (.whole (p.first - 1).toNat)) (some (.whole p.pageSize.toNat)) rows =
      .ok (rows.extract ((p.pageNo - 1) * p.pageSize).toNat (p.pageNo * p.pageSize).toNat) := by
  have hfirst : p.first - 1 = (p.pageNo - 1) * p.pageSize := by
    rw [Page.first]
    omega
  have hlast : p.pageNo * p.pageSize = (p.first - 1) + p.pageSize := by
    rw [hfirst, Int.sub_mul]
    omega
  have hnonneg := first_sub_one_nonneg hsize
  have hroom : (p.pageNo * p.pageSize).toNat - ((p.pageNo - 1) * p.pageSize).toNat =
      p.pageSize.toNat := by
    rw [hlast, ← hfirst]
    omega
  rw [cutRows_whole, List.extract_eq_take_drop, hroom, hfirst]

/-- What is left of filling a page from a query text has run the text, with the bindings of
the call, and has put its slice of the answer on the page. -/
theorem fillTextPage_ok {p : Page Value} (hsize : 0 < p.pageSize) {v v' : Visit Store}
    (h : (do
      let q ← outside (createTextQuery ⟨backend, entity⟩ text values params)
      let q ← .ofExcept (q.setOffset (.int (p.first - 1)))
      let q ← .ofExcept (q.setLimit (.int p.pageSize))
      noteRows ⟨backend, entity⟩ (← outside (backend.textRows q)) :
        Action (Visit Store) Unit).run v = (.ok (), v')) :
    ∃ rows, v.world.store.answered (pageTextQuery text values params p) = .ok rows ∧
      v'.world.store = v.world.store.opened.note ⟨.text, text, .rows⟩ ∧
      v'.page = { v.page with
        result := rows.extract ((p.pageNo - 1) * p.pageSize).toNat
          (p.pageNo * p.pageSize).toNat } := by
  obtain ⟨q, w₁, hquery, h⟩ := outside_bind_eq_ok h
  obtain ⟨rfl, rfl⟩ := createTextQuery_ok hquery
  rw [setTextOffset_first hsize, Action.ofExcept_ok_bind, setTextLimit_pageSize hsize,
    Action.ofExcept_ok_bind] at h
  obtain ⟨found, w₂, hfound, h⟩ := outside_bind_eq_ok h
  have hfetch : (backend.textRows (pageTextQuery text values params p)).run
      (v.world.updateStore Store.opened) = _ := fetchText_run _ _
  obtain ⟨hcut, rfl⟩ := Prod.mk.inj (hfetch.symm.trans hfound)
  obtain ⟨rows, hrows, hcut⟩ := bind_eq_ok hcut
  rw [pageTextQuery, cutRows_extract hsize] at hcut
  cases hcut
  cases h
  exact ⟨rows, hrows, rfl, rfl⟩

/-- What a counted page of a query text runs, and what is on the page afterwards.  Two
queries are made and run, of the count text and then of the text itself, and both carry
the bindings of the call.  The page gets the number that is answered to the count text,
and its slice of the rows that are answered to the text.  When values are bound by
position, what the count text leaves out has no placeholder, so that the placeholders of
both texts stand at the same places of what is counted.  A page with another sort request
gets the same. -/
theorem findPageByQuery_bound {w : World Store} {p : Page Value} {v : Visit Store}
    (hsize : 0 < p.pageSize) (hauto : p.autoCount = true)
    (hnames : (params.map Prod.fst).Nodup)
    (hrun : (findPageByQuery ⟨backend, entity⟩ text values params).run ⟨w, p⟩ = (.ok (), v)) :
    ∃ (counter fetcher : TextQuery) (counted rows : List Value) (total : Int),
      countText text = .ok counter.text ∧ fetcher.text = text ∧
      counter.Carries values params ∧ fetcher.Carries values params ∧
      v.world.store = { w.store with
        created := w.store.created + 2
        executed := w.store.executed ++
          [⟨.text, counter.text, .rows⟩, ⟨.text, fetcher.text, .rows⟩] } ∧
      w.store.answered counter = .ok counted ∧
      (Value.scalarOf counted).toCount = .ok total ∧
      w.store.answered fetcher = .ok rows ∧
      v.page = { p with
        totalCount := total
        result := rows.extract ((p.pageNo - 1) * p.pageSize).toNat
          (p.pageNo * p.pageSize).toNat } ∧
      (∃ head body tail, CountParts text counter.text head body tail ∧
        (values ≠ [] → '?' ∉ head ∧ '?' ∉ tail ∧
          counter.text.toList.idxsOf '?' =
            (body.idxsOf '?').map (· + countSelect.length) ∧
          text.toList.idxsOf '?' = (body.idxsOf '?').map (· + head.length))) ∧
      ∀ fields directions,
        (findPageByQuery ⟨backend, entity⟩ text values params).run
            ⟨w, p.reordered fields directions⟩ =
          (.ok (), v.reordered fields directions) := by
  have hreordered : ∀ fields directions,
      (findPageByQuery ⟨backend, entity⟩ text values params).run
          ⟨w, p.reordered fields directions⟩ = (.ok (), v.reordered fields directions) := by
    intro fields directions
    have h := findPageByQuery_reordered ⟨backend, entity⟩ fields directions text values params
      ⟨w, p⟩
    rw [hrun] at h
    exact h
  obtain ⟨_, _, hstate, h⟩ := Action.run_bind_eq_ok hrun
  cases hstate
  obtain ⟨_, -, h⟩ := Action.ofExcept_bind_eq_ok h
  obtain ⟨_, -, h⟩ := Action.ofExcept_bind_eq_ok h
  simp only [hauto, if_true] at h
  obtain ⟨total, w₁, hcounted, h⟩ := outside_bind_eq_ok h
  obtain ⟨count, counted, hcount, hanswer, htotal, rfl⟩ := countByQuery_ok hcounted
  obtain ⟨_, _, hnoted, h⟩ := Action.run_bind_eq_ok h
  cases hnoted
  obtain ⟨rows, hrows, hstore, hpage⟩ := fillTextPage_ok hsize h
  obtain ⟨htext, hplaces⟩ := countTextFor_ok hcount
  obtain ⟨head, body, tail, hparts⟩ := countText_parts htext
  have hcounter : (TextQuery.bindAll count values params).Carries values params :=
    TextQuery.carries_bindAll count values hnames
  have hfetcher : (pageTextQuery text values params p).Carries values params :=
    (TextQuery.carries_bindAll text values hnames).sliced _ _
  refine ⟨_, _, counted, rows, total, htext, rfl, hcounter, hfetcher, ?_, hanswer, htotal,
    hrows, hpage, ⟨head, body, tail, hparts, ?_⟩, hreordered⟩
  · rw [hstore]
    simp [Store.note, Store.opened, World.updateStore, pageTextQuery, TextQuery.bindAll]
  · intro hvalues
    exact parts_aligned hparts (hplaces hvalues)

/-- A query text with two placeholders in what is counted. -/
def ofTwo : String := "select a from u where b in (?, ?) order by a"

/-- A store that answers a query text with its bindings, and its count text with their
number. -/
def bindingsStore : Store where
  responders := [(ofTwo, Responder.values),
    ("select count(*) from u where b in (?, ?) ", Responder.count)]

/-- The second page with one row each, with fewer directions than fields to sort by. -/
def secondBinding : Page Value :=
  Page.setPageNo
    { pageNo := 1, pageSize := 1, orderBy := some "a,b", order := some [.desc], autoCount := true
      result := [], totalCount := -1, one_le_pageNo := Int.one_pos } 2

set_option maxRecDepth 4000 in
/-- Two values are bound to both texts, so that two rows are counted and the second value
is the only row of the second page, in whatever order. -/
theorem findPageByQuery_bound_twoValues :
    ∃ v : Visit Store,
      (findPageByQuery ⟨backend, "u"⟩ ofTwo [.text "x", .text "y"] []).run
          ⟨⟨bindingsStore, []⟩, secondBinding⟩ = (.ok (), v) ∧
        v.page.totalCount = 2 ∧ v.page.result = [.text "y"] ∧
        v.world.store.executed.length = 2 ∧
        ∀ fields directions,
          (findPageByQuery ⟨backend, "u"⟩ ofTwo [.text "x", .text "y"] []).run
              ⟨⟨bindingsStore, []⟩, secondBinding.reordered fields directions⟩ =
            (.ok (), v.reordered fields directions) := by
  obtain ⟨v, hrun⟩ : ∃ v, (findPageByQuery ⟨backend, "u"⟩ ofTwo [.text "x", .text "y"] []).run
      ⟨⟨bindingsStore, []⟩, secondBinding⟩ = (.ok (), v) := ⟨_, Prod.ext rfl rfl⟩
  have hnames : (([] : Entries).map Prod.fst).Nodup := List.nodup_nil
  obtain ⟨counter, fetcher, counted, rows, total, hcount, hfetch, hcounter, hfetcher, hstore,
      hcounted, htotal, hrows, hpage, -, hreordered⟩ :=
    findPageByQuery_bound (by decide) rfl hnames hrun
  have hcountText : counter.text = "select count(*) from u where b in (?, ?) " :=
    (Except.ok.inj hcount).symm
  have hanswered : bindingsStore.answered counter =
      .ok [.tuple [.int counter.values.length]] := by
    rw [Store.answered, hcountText]
    rfl
  have hfetched : bindingsStore.answered fetcher = .ok fetcher.values := by
    rw [Store.answered, hfetch]
    rfl
  have htwo : total = 2 := by
    rw [hanswered, Except.ok.injEq, hcounter.values] at hcounted
    rw [← hcounted] at htotal
    exact (Except.ok.inj htotal).symm
  have hboth : rows = [.text "x", .text "y"] := by
    rw [hfetched, Except.ok.injEq, hfetcher.values] at hrows
    exact hrows.symm
  refine ⟨v, hrun, ?_, ?_, ?_, hreordered⟩
  · rw [hpage, htwo]
  · rw [hpage, hboth]
    rfl
  · rw [hstore]
    rfl

end Collection

end PagedQuery
