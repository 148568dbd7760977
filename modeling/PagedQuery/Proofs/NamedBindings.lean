import PagedQuery.Proofs.TextPages
import PagedQuery.Proofs.ValueEquality

/-!
# Query texts bound by name

A caller writes a query text and gives values by name.  What reaches the database is a
statement in which every question mark has become a name, and whose slice is bound to two
names of its own.  So the text is sent as it is written when there is no question mark in it,
wherever that would stand, and a value is sent under its name when the slice does not take
that name for another value.

Main results:

- Theorem `finish_numberPlaceholders_iff`: when a text is sent as it is written.
- Theorem `run_sent`: what a call has sent.
- Theorem `named_sent_iff`: when text and values reach the database as they were given.
-/

namespace PagedQuery
namespace Relational

open Numeric Repository Text

/-! ## Texts without question marks -/

/-- No numeral has a question mark. -/
theorem not_mem_intChars (n : Int) : '?' ∉ intChars n := by
  have hdigits : ∀ m, '?' ∉ decimalDigits m := by
    intro m hmem
    exact absurd (decimalDigits_isDigit m '?' hmem) (by decide)
  cases n with
  | ofNat m => exact hdigits m
  | negSucc m =>
      rw [intChars, List.mem_cons, not_or]
      exact ⟨by decide, hdigits (m + 1)⟩

/-- A text with its placeholders named has no question mark. -/
theorem not_mem_numberPlaceholders (next : Nat) (cs : List Char) :
    '?' ∉ numberPlaceholders next cs := by
  induction cs generalizing next with
  | nil => exact List.not_mem_nil
  | cons c cs ih =>
      rw [numberPlaceholders]
      split
      · simp only [placeholderName, List.cons_append, List.mem_cons, List.mem_append,
          not_mem_intChars, ih, or_false, not_or]
        decide
      · rename_i hc
        rw [List.mem_cons, not_or]
        exact ⟨fun hsame => hc (beq_iff_eq.2 hsame.symm), ih next⟩

/-- Leaving out the blanks at the end leaves out nothing else. -/
theorem mem_stripEnd_iff {c : Char} (hc : isBlank c = false) (cs : List Char) :
    c ∈ stripEnd cs ↔ c ∈ cs := by
  have hblank : c ∉ cs.reverse.takeWhile isBlank := by
    intro hmem
    rw [List.mem_takeWhile_imp hmem] at hc
    cases hc
  have hparts : cs.reverse.takeWhile isBlank ++ cs.reverse.dropWhile isBlank = cs.reverse :=
    List.takeWhile_append_dropWhile
  have hmem : c ∈ cs.reverse ↔ c ∈ cs.reverse.dropWhile isBlank := by
    conv_lhs => rw [← hparts]
    rw [List.mem_append, or_iff_right hblank]
  rw [stripEnd, List.mem_reverse, ← hmem, List.mem_reverse]

/-! ## Calls with a query text -/

/-- A call that sends the query text of its caller: for all rows, for the first row, or for
the rows of a page. -/
inductive TextCall where
  | rows
  | first
  | page (p : Page Value)

namespace TextCall

/-- The query that a call makes of a text with values bound by name. -/
def query (call : TextCall) (text : String) (params : Entries) : TextQuery :=
  match call with
  | rows => .bindAll text [] params
  | first => { TextQuery.bindAll text [] params with limit := some (.whole 1) }
  | page p => Collection.pageTextQuery text [] params p

/-- The values of its slice that a call binds itself. -/
def own : TextCall → Entries
  | rows => []
  | first => [("_limit", .int 1), ("_offset", .int 0)]
  | page p => [("_limit", .int p.pageSize), ("_offset", .int (p.first - 1))]

/-- What a call sends of a text: the text itself, or with a slice the text without blanks at
its end and the clause of the slice. -/
def finish (call : TextCall) (cs : List Char) : String :=
  match call with
  | rows => .ofList cs
  | first | page _ => .ofList (stripEnd cs ++ limitClause)

/-- A text is sent as it is written exactly when there is no question mark in it. -/
theorem finish_numberPlaceholders_iff (call : TextCall) (cs : List Char) :
    call.finish (numberPlaceholders 0 cs) = call.finish cs ↔ '?' ∉ cs := by
  constructor
  · intro hsame hmem
    have hstripped : stripEnd (numberPlaceholders 0 cs) = stripEnd cs := by
      cases call with
      | rows => rw [String.ofList_injective hsame]
      | first => exact List.append_cancel_right (String.ofList_injective hsame)
      | page p => exact List.append_cancel_right (String.ofList_injective hsame)
    have hblank : isBlank '?' = false := by decide
    rw [← mem_stripEnd_iff hblank, ← hstripped, mem_stripEnd_iff hblank] at hmem
    exact not_mem_numberPlaceholders 0 cs hmem
  · intro hnone
    rw [numberPlaceholders_of_not_mem hnone]

/-- The names that a call binds itself are different. -/
theorem nodup_own (call : TextCall) : (call.own.map Prod.fst).Nodup := by
  cases call with
  | rows => exact List.nodup_nil
  | first => decide
  | page p =>
      change ["_limit", "_offset"].Nodup
      decide

/-- The page of a call has room for a row. -/
def HasRoom : TextCall → Prop
  | page p => 0 < p.pageSize
  | _ => True

/-- A whole offset is sent as it is. -/
theorem sentOffset_whole (n : Nat) : sentOffset (some (.whole n)) = .int n := by
  cases n <;> rfl

/-- The statement that a call makes of a text. -/
theorem ofTextQuery_query {call : TextCall} (hroom : call.HasRoom) (text : String)
    {params : Entries} (hnames : (params.map Prod.fst).Nodup) :
    Statement.ofTextQuery (call.query text params) =
      .ok ⟨call.finish (numberPlaceholders 0 text.toList), putEntries params call.own⟩ := by
  have hparams : statementParams (call.query text params) = params := by
    have hnamed : putEntries [] params = params := putEntries_of_nodup hnames
    cases call <;> exact (congrArg (putEntries []) hnamed).trans hnamed
  cases call with
  | rows =>
      rw [ofTextQuery_unsliced rfl rfl, hparams]
      rfl
  | first =>
      rw [ofTextQuery_limited rfl, hparams]
      rfl
  | page p =>
      have hlimit : (Amount.whole p.pageSize.toNat).toValue = .int p.pageSize :=
        congrArg Value.int (Int.toNat_of_nonneg (Int.le_of_lt hroom))
      have hoffset : sentOffset ((page p).query text params).offset = .int (p.first - 1) :=
        (sentOffset_whole _).trans
          (congrArg Value.int (Int.toNat_of_nonneg (first_sub_one_nonneg hroom)))
      rw [ofTextQuery_limited rfl, hparams, hlimit, hoffset]
      rfl

/-- Under the name of a value that was given stands this value, when the call binds nothing
else to the name. -/
theorem lookup_own_iff (call : TextCall) {params : Entries}
    (hnames : (params.map Prod.fst).Nodup) {entry : String × Value} (hentry : entry ∈ params) :
    (putEntries params call.own).lookup entry.1 = some entry.2 ↔
      ∀ own ∈ call.own, own.1 = entry.1 → own.2 = entry.2 := by
  rw [lookup_putEntries params call.nodup_own, Value.lookup_of_mem hnames hentry]
  constructor
  · rintro hfound ⟨name, value⟩ hown rfl
    rw [Value.lookup_of_mem call.nodup_own hown, Option.some_or, Option.some.injEq] at hfound
    exact hfound
  · intro hsame
    cases hlookup : call.own.lookup entry.1 with
    | none => rfl
    | some value => exact congrArg some (hsame _ (Value.mem_of_lookup hlookup) rfl)

end TextCall

/-! ## What calls send -/

/-- What only looks at the value of an action leaves the state as the action did. -/
theorem run_bind_state {ω α β : Type} {x : Action ω α} {f : α → Action ω β}
    (h : ∀ a w, ((f a).run w).2 = w) (w : ω) : ((x >>= f).run w).2 = (x.run w).2 := by
  rw [Action.run_bind]
  rcases x.run w with ⟨failure | a, w'⟩
  · rfl
  · exact h a w'

/-- A text sends its statement, whatever the answer is. -/
theorem sendText_sent {q : TextQuery} {s : Statement}
    (hs : Statement.ofTextQuery q = .ok s) (w : World Database) :
    ((sendText q).run w).2.store.sent = w.store.sent ++ [s] := by
  obtain ⟨w₁, hecho, hstore⟩ :=
    echo_run [("statement", .text s.sql), ("params", .mapping s.params)] w
  simp only [sendText, hs, Action.ofExcept_ok_bind, Action.run_bind, hecho,
    Action.run_change, Action.run_state]
  rw [← hstore]
  split
  · rfl
  · rfl
  · rfl

/-- Fetching the rows of a text sends its statement. -/
theorem fetchText_sent {q : TextQuery} {s : Statement}
    (hs : Statement.ofTextQuery q = .ok s) (w : World Database) :
    ((fetchText q).run w).2.store.sent = w.store.sent ++ [s] := by
  -- `sendText` always ends with a reply, which is only looked at afterwards.
  have hstate : ((fetchText q).run w).2 = ((sendText q).run w).2 :=
    run_bind_state (fun reply => run_bind_state fun _ _ => rfl) w
  rw [hstate, sendText_sent hs]

namespace TextCall

/-- Values that are bound by name only are accepted. -/
theorem checkBindings_named (text : String) (params : Entries) :
    checkBindings text [] params = .ok () := by
  simp [checkBindings]

/-- The world after a call with a text and values bound by name. -/
def run (call : TextCall) (entity text : String) (params : Entries) (w : World Database) :
    World Database :=
  match call with
  | rows => ((findByQuery ⟨backend, entity⟩ text [] params).run w).2
  | first => ((findUniqueByQuery ⟨backend, entity⟩ text [] params).run w).2
  | page p => ((findPageByQuery ⟨backend, entity⟩ text [] params).run ⟨w, p⟩).2.world

/-- The count of the rows of a text with values bound by name. -/
def counting (entity text : String) (params : Entries) : Action (World Database) Int :=
  countByQuery ⟨backend, entity⟩ text [] params

/-- The world in which a call comes to its text: the rows of a page that has room for a row
may be counted before. -/
def before (call : TextCall) (entity text : String) (params : Entries) (w : World Database) :
    World Database :=
  match call with
  | page p =>
      if 0 < p.pageSize ∧ p.autoCount = true then ((counting entity text params).run w).2 else w
  | _ => w

/-- A call comes to its text: a page has room for a row, and its rows have been counted if
they were to be. -/
def Reaches (call : TextCall) (entity text : String) (params : Entries) (w : World Database) :
    Prop :=
  call.HasRoom ∧ match call with
    | page p => p.autoCount = true → ∃ total, ((counting entity text params).run w).1 = .ok total
    | _ => True

variable {entity text : String} {params : Entries}

/-- A query text with values bound by name becomes a query, and nothing changes. -/
theorem createTextQuery_run (w : World Database) :
    (createTextQuery ⟨backend, entity⟩ text [] params).run w =
      (.ok (.bindAll text [] params), w) := by
  rw [createTextQuery, checkBindings_named]
  rfl

/-- What is left of filling a page from a text when its rows have been counted. -/
def fillText (entity text : String) (params : Entries) (p : Page Value) :
    Action (Visit Database) Unit := do
  let q ← outside (createTextQuery ⟨backend, entity⟩ text [] params)
  let q ← .ofExcept (q.setOffset (.int (p.first - 1)))
  let q ← .ofExcept (q.setLimit (.int p.pageSize))
  noteRows ⟨backend, entity⟩ (← outside (backend.textRows q))

/-- Filling a page from a text sends one statement. -/
theorem fillText_sent {p : Page Value} (hroom : 0 < p.pageSize) {s : Statement}
    (hs : Statement.ofTextQuery (Collection.pageTextQuery text [] params p) = .ok s)
    (v : Visit Database) :
    ((fillText entity text params p).run v).2.world.store.sent =
      v.world.store.sent ++ [s] := by
  have hquery : (outside (createTextQuery ⟨backend, entity⟩ text [] params)).run v =
      (.ok (.bindAll text [] params), v) := by
    rw [outside_run, createTextQuery_run]
  have hoffset : (TextQuery.bindAll text [] params).setOffset (.int (p.first - 1)) =
      .ok { TextQuery.bindAll text [] params with
        offset := some (.whole (p.first - 1).toNat) } := by
    rw [TextQuery.setOffset, Amount.ofValue?_int "offset" (first_sub_one_nonneg hroom)]
    rfl
  have hlimit : TextQuery.setLimit { TextQuery.bindAll text [] params with
        offset := some (.whole (p.first - 1).toNat) } (.int p.pageSize) =
      .ok (Collection.pageTextQuery text [] params p) := by
    rw [TextQuery.setLimit, Amount.ofValue?_int "limit" (Int.le_of_lt hroom)]
    rfl
  rw [fillText, Action.run_bind_ok hquery, hoffset, Action.ofExcept_ok_bind, hlimit,
    Action.ofExcept_ok_bind, ← fetchText_sent hs, Action.run_bind, outside_run]
  change _ = ((backend.textRows _).run v.world).2.store.sent
  rcases (backend.textRows (Collection.pageTextQuery text [] params p)).run v.world with
    ⟨failure | rows, w'⟩
  · rfl
  · rfl

variable {p : Page Value} (w : World Database)

/-- A page without room for a row is refused at once. -/
theorem run_page_refused (hroom : ¬0 < p.pageSize) : (page p).run entity text params w = w := by
  simp only [run, findPageByQuery, Action.run_bind, Action.run_state, checkPageSize,
    if_pos (Int.not_lt.1 hroom), Action.run_ofExcept]

/-- A page whose rows need no count is filled at once. -/
theorem run_page_uncounted (hroom : 0 < p.pageSize) (hauto : p.autoCount = false) :
    (page p).run entity text params w =
      ((fillText entity text params p).run ⟨w, p⟩).2.world := by
  simp only [run, findPageByQuery, Action.run_bind, Action.run_state, checkPageSize,
    if_neg (Int.not_le.2 hroom), checkBindings_named, Action.run_ofExcept, hauto,
    Bool.false_eq_true, if_false]
  rfl

/-- A page whose rows are counted is filled after that; it is not when the count fails. -/
theorem run_page_counted (entity text : String) (params : Entries) (w : World Database)
    (hroom : 0 < p.pageSize) (hauto : p.autoCount = true) :
    match (counting entity text params).run w with
    | (.ok _, counted) => ∃ v : Visit Database, v.world.store = counted.store ∧
        (page p).run entity text params w = ((fillText entity text params p).run v).2.world
    | (.error _, counted) => (page p).run entity text params w = counted := by
  simp only [run, findPageByQuery, Action.run_bind, Action.run_state, checkPageSize,
    if_neg (Int.not_le.2 hroom), checkBindings_named, Action.run_ofExcept, hauto, if_true,
    outside_run]
  rw [counting]
  rcases hcount : (countByQuery ⟨backend, entity⟩ text [] params).run w with
    ⟨failure | total, counted⟩
  · rfl
  · obtain ⟨w', hnoted, hstore⟩ := noteCount_run ⟨backend, entity⟩ total ⟨counted, p⟩
    simp only [hnoted]
    exact ⟨⟨w', _⟩, hstore, rfl⟩

variable {w}

/-- A call that comes to its text sends one statement more, that of its query. -/
theorem run_sent {call : TextCall} (hreaches : call.Reaches entity text params w)
    {s : Statement} (hs : Statement.ofTextQuery (call.query text params) = .ok s) :
    (call.run entity text params w).store.sent =
      (call.before entity text params w).store.sent ++ [s] := by
  cases call with
  | rows =>
      rw [run, findByQuery, Action.run_bind_ok (createTextQuery_run w)]
      exact fetchText_sent hs w
  | first =>
      rw [run, findUniqueByQuery, Action.run_bind_ok (createTextQuery_run w),
        run_bind_state fun _ _ => rfl]
      exact fetchText_sent hs w
  | page p =>
      obtain ⟨hroom, hcounted⟩ := hreaches
      cases hauto : p.autoCount with
      | false =>
          rw [run_page_uncounted w hroom hauto, fillText_sent hroom hs, before,
            if_neg (by simp [hauto])]
      | true =>
          obtain ⟨total, htotal⟩ := hcounted hauto
          have hrun := run_page_counted entity text params w hroom hauto
          rw [before, if_pos ⟨hroom, hauto⟩]
          rcases hcount : (counting entity text params).run w with ⟨failure | _, counted⟩
          · rw [hcount] at htotal
            cases htotal
          · rw [hcount] at hrun
            obtain ⟨v, hstore, hfill⟩ := hrun
            rw [hfill, fillText_sent hroom hs, hstore]

/-- A call that does not come to its text sends nothing more. -/
theorem run_not_sent {call : TextCall} (hreaches : ¬call.Reaches entity text params w) :
    (call.run entity text params w).store.sent =
      (call.before entity text params w).store.sent := by
  cases call with
  | rows => exact absurd ⟨trivial, trivial⟩ hreaches
  | first => exact absurd ⟨trivial, trivial⟩ hreaches
  | page p =>
      by_cases hroom : 0 < p.pageSize
      · cases hauto : p.autoCount with
        | false =>
            refine absurd ⟨hroom, fun hon => ?_⟩ hreaches
            rw [hauto] at hon
            cases hon
        | true =>
            have hrun := run_page_counted entity text params w hroom hauto
            rw [before, if_pos ⟨hroom, hauto⟩]
            rcases hcount : (counting entity text params).run w with ⟨failure | total, counted⟩
            · rw [hcount] at hrun
              rw [hrun]
            · exact absurd ⟨hroom, fun _ => ⟨total, by rw [hcount]⟩⟩ hreaches
      · rw [run_page_refused w hroom, before, if_neg fun h => hroom h.1]

/-- What a call with values bound by name sends beyond the count of a page is one statement.
Its text is the text of the caller, up to the slice, exactly when there is no question mark
in that, and it has the value of the caller under a name exactly when the slice has no other
value under that name. -/
theorem named_sent_iff (call : TextCall) (entity text : String) {params : Entries}
    (hnames : (params.map Prod.fst).Nodup) (w : World Database) :
    (¬call.Reaches entity text params w → (call.run entity text params w).store.sent =
      (call.before entity text params w).store.sent) ∧
    (call.Reaches entity text params w → ∃ s : Statement,
      (call.run entity text params w).store.sent =
          (call.before entity text params w).store.sent ++ [s] ∧
        (s.sql = call.finish text.toList ↔ '?' ∉ text.toList) ∧
        ∀ entry ∈ params, s.params.lookup entry.1 = some entry.2 ↔
          ∀ own ∈ call.own, own.1 = entry.1 → own.2 = entry.2) := by
  refine ⟨run_not_sent, ?_⟩
  intro hreaches
  refine ⟨_, run_sent hreaches (ofTextQuery_query hreaches.1 text hnames), ?_, ?_⟩
  · exact call.finish_numberPlaceholders_iff text.toList
  · intro entry hentry
    exact call.lookup_own_iff hnames hentry

/-- A text with a quoted question mark. -/
def quotedMark : String := "select '?' from t where a = :a"

/-- A text with a name that a slice takes. -/
def takenName : String := "select a from t where a < :_limit"

/-- A question mark in quotes is sent as a name, and a slice takes a name of its caller. -/
theorem sent_changed :
    (∃ s, ((findByQuery ⟨backend, "User"⟩ quotedMark [] [("a", .int 1)]).run
        ⟨{}, []⟩).2.store.sent = [s] ∧ s.sql = "select ':_p0' from t where a = :a") ∧
      ∃ s, ((findUniqueByQuery ⟨backend, "User"⟩ takenName [] [("_limit", .int 5)]).run
        ⟨{}, []⟩).2.store.sent = [s] ∧ s.params.lookup "_limit" = some (.int 1) := by
  have hzero : placeholderName 0 = "_p0".toList :=
    congrArg (fun digits => '_' :: 'p' :: digits) (decimalDigits_of_lt (by decide))
  have hnumbered : String.ofList (numberPlaceholders 0 quotedMark.toList) =
      .ofList ("select ':".toList ++ placeholderName 0 ++ "' from t where a = :a".toList) := rfl
  rw [hzero] at hnumbered
  exact ⟨⟨_, rfl, hnumbered⟩, ⟨_, rfl, rfl⟩⟩

/-- The first row is asked for with the text as it is written, but with the value of the
slice under a name of the caller. -/
theorem named_sent_iff_takenName :
    ∃ s : Statement, (first.run "User" takenName [("_limit", .int 5)] ⟨{}, []⟩).store.sent = [s] ∧
      s.sql = first.finish takenName.toList ∧ s.params.lookup "_limit" ≠ some (.int 5) := by
  have hnames : (([("_limit", .int 5)] : Entries).map Prod.fst).Nodup := by decide
  obtain ⟨s, hsent, htext, hvalues⟩ :=
    (named_sent_iff first "User" takenName hnames ⟨{}, []⟩).2 ⟨trivial, trivial⟩
  refine ⟨s, hsent, htext.2 (by decide), ?_⟩
  intro hfound
  have hown := (hvalues ("_limit", .int 5) List.mem_cons_self).1 hfound
  exact absurd (hown ("_limit", .int 1) List.mem_cons_self rfl) (by simp)

end TextCall

end Relational
end PagedQuery
