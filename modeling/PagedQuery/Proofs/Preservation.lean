import PagedQuery.Collection.Backend
import PagedQuery.Proofs.PageRuns

/-!
# What filling pages leaves alone

Pages are filled by reading.  A view of the store that every query keeps, however
it ends, is kept by filling any number of pages, whether they can be filled or not.

Main results:

- Theorem `findPage_preserves` and Theorem `findPageByQuery_preserves`: filling one
  page keeps such a view.
- Theorem `fetchPages_keeps`: so does filling one page after another.
- Theorem `collection_reads`: queries on lists of rows keep all rows.
-/

namespace PagedQuery

/-! ## Actions that keep a view -/

namespace Action

variable {ω π τ α β : Type} {view : ω → τ}

/-- However the action ends, a view of the state is as it was before. -/
def Preserves (view : ω → τ) (x : Action ω α) : Prop := ∀ w, view (x.run w).2 = view w

/-- Ending with a value keeps every view. -/
theorem preserves_pure (a : α) : (Pure.pure a : Action ω α).Preserves view :=
  fun _ => rfl

/-- Ending as a computation without state ends keeps every view. -/
theorem preserves_ofExcept (x : Except Failure α) : (ofExcept x).Preserves view :=
  fun _ => rfl

/-- Ending with a failure keeps every view. -/
theorem preserves_fail (failure : Failure) : (fail failure : Action ω α).Preserves view :=
  fun _ => rfl

/-- Reading the state keeps every view. -/
theorem preserves_state : (state : Action ω ω).Preserves view := fun _ => rfl

/-- One action after another keeps what both of them keep. -/
theorem Preserves.bind {x : Action ω α} {f : α → Action ω β} (hx : x.Preserves view)
    (hf : ∀ a, (f a).Preserves view) : (x >>= f).Preserves view := by
  intro w
  have hfirst := hx w
  rw [run_bind]
  rcases hrun : x.run w with ⟨failure | a, w'⟩
  · rw [hrun] at hfirst
    exact hfirst
  · rw [hrun] at hfirst
    exact (hf a w').trans hfirst

/-- Holding on to the end of an action keeps what the action keeps. -/
theorem Preserves.outcome {x : Action ω α} (hx : x.Preserves view) :
    x.outcome.Preserves view := by
  intro w
  rw [run_outcome]
  exact hx w

end Action

open PagedQuery.Action

namespace Repository

variable {σ ρ τ : Type} (r : Repository σ ρ) {view : σ → τ}

/-- However the queries of a backend end, a view of its store is as it was before. -/
structure ReadsKeep (b : Backend σ ρ) (view : σ → τ) : Prop where
  openQuery : b.openQuery.Preserves fun w => view w.store
  rows : ∀ q, (b.rows q).Preserves fun w => view w.store
  textRows : ∀ q, (b.textRows q).Preserves fun w => view w.store

/-- What an action on the world keeps is kept while a page is filled. -/
theorem outside_preserves {α : Type} {x : Action (World σ) α}
    (hx : x.Preserves fun w => view w.store) :
    (outside x).Preserves fun v : Visit σ => view v.world.store :=
  fun v => hx v.world

/-- The journal has no part in the store. -/
theorem log_preserves (level : Journal.Level) (name : String) (fields : Entries) :
    (r.log level name fields).Preserves fun w => view w.store := fun _ => rfl

/-- Noting a count has no part in the store. -/
theorem noteCount_preserves (total : Int) :
    (r.noteCount total).Preserves fun v => view v.world.store := fun _ => rfl

/-- Noting rows has no part in the store. -/
theorem noteRows_preserves (rows : List Value) :
    (r.noteRows rows).Preserves fun v => view v.world.store := fun _ => rfl

section

variable (h : ReadsKeep r.backend view)

include h

/-- Fetching all rows of a query keeps what queries keep. -/
theorem fetchAll_preserves (q : Query) : (r.fetchAll q).Preserves fun w => view w.store := by
  apply (h.rows q).bind
  intro rows
  exact preserves_ofExcept _

/-- Counting keeps what queries keep. -/
theorem countResult_preserves (q : Query) :
    (r.countResult q).Preserves fun w => view w.store := by
  have hscalar : (r.fetchScalar q.countShape).Preserves fun w => view w.store :=
    (h.rows q.countShape).bind fun _ => preserves_pure _
  have hcount : (r.count q).Preserves fun w => view w.store :=
    hscalar.outcome.bind fun _ => preserves_pure _
  exact hcount.bind fun _ => preserves_ofExcept _

/-- Making a text query keeps what queries keep. -/
theorem createTextQuery_preserves (text : String) (values : List Value) (params : Entries) :
    (r.createTextQuery text values params).Preserves fun w => view w.store := by
  apply (preserves_ofExcept (checkBindings text values params)).bind
  intro _
  exact h.openQuery.bind fun _ => preserves_pure _

/-- Counting the rows of a query text keeps what queries keep. -/
theorem countByQuery_preserves (text : String) (values : List Value) (params : Entries) :
    (r.countByQuery text values params).Preserves fun w => view w.store := by
  apply (preserves_ofExcept (countTextFor text values)).bind
  intro count
  apply (r.createTextQuery_preserves h count values params).bind
  intro q
  have hscalar : (r.fetchTextScalar q).Preserves fun w => view w.store :=
    (h.textRows q).bind fun _ => preserves_pure _
  apply hscalar.outcome.bind
  intro result
  cases result with
  | ok total => exact preserves_ofExcept total.toCount
  | error failure =>
      exact (r.log_preserves _ _ _).bind fun _ => preserves_fail _

/-- Filling a page keeps what queries keep. -/
theorem findPage_preserves (predicates : List Predicate) :
    (r.findPage predicates).Preserves fun v => view v.world.store := by
  have hcreate : (r.createQuery predicates).Preserves fun w => view w.store :=
    h.openQuery.bind fun _ => preserves_pure _
  -- What is left once a query is there: cut out the slice and put the rows on the page.
  have hfill : ∀ (p : Page Value) (keys : List SortKey) (q : Query),
      (do
        let q ← .ofExcept (q.setOffset (.int (p.first - 1)))
        let q ← .ofExcept (q.setLimit (.int p.pageSize))
        r.noteRows (← outside (r.fetchAll (keys.foldl Query.addSort q))) :
          Action (Visit σ) Unit).Preserves fun v => view v.world.store := by
    intro p keys q
    apply (preserves_ofExcept _).bind
    intro q
    apply (preserves_ofExcept _).bind
    intro q
    apply (outside_preserves (r.fetchAll_preserves h _)).bind
    exact r.noteRows_preserves
  apply preserves_state.bind
  intro v
  apply (preserves_ofExcept (checkPageSize v.page)).bind
  intro _
  apply (preserves_ofExcept v.page.sorts).bind
  intro keys
  apply (outside_preserves hcreate).bind
  intro q
  cases v.page.autoCount with
  | false => exact hfill v.page keys q
  | true =>
      apply (outside_preserves (r.countResult_preserves h q)).bind
      intro total
      apply (r.noteCount_preserves total).bind
      intro _
      exact hfill v.page keys q

/-- Filling a page with rows of a query text keeps what queries keep. -/
theorem findPageByQuery_preserves (text : String) (values : List Value) (params : Entries) :
    (r.findPageByQuery text values params).Preserves fun v => view v.world.store := by
  have hfill : ∀ p : Page Value,
      (do
        let q ← outside (r.createTextQuery text values params)
        let q ← .ofExcept (q.setOffset (.int (p.first - 1)))
        let q ← .ofExcept (q.setLimit (.int p.pageSize))
        r.noteRows (← outside (r.backend.textRows q)) :
          Action (Visit σ) Unit).Preserves fun v => view v.world.store := by
    intro p
    apply (outside_preserves (r.createTextQuery_preserves h text values params)).bind
    intro q
    apply (preserves_ofExcept _).bind
    intro q
    apply (preserves_ofExcept _).bind
    intro q
    apply (outside_preserves (h.textRows q)).bind
    exact r.noteRows_preserves
  apply preserves_state.bind
  intro v
  apply (preserves_ofExcept (checkPageSize v.page)).bind
  intro _
  apply (preserves_ofExcept (checkBindings text values params)).bind
  intro _
  cases v.page.autoCount with
  | false => exact hfill v.page
  | true =>
      apply (outside_preserves (r.countByQuery_preserves h text values params)).bind
      intro total
      apply (r.noteCount_preserves total).bind
      intro _
      exact hfill v.page

end

/-! ## One page after another -/

/-- A page that is to be filled, by predicates or by a query text. -/
inductive PageFetch where
  | byPredicates (entity : String) (predicates : List Predicate) (page : Page Value)
  | byText (entity : String) (text : String) (values : List Value) (params : Entries)
      (page : Page Value)

/-- The world after one page was filled, or could not be filled. -/
def PageFetch.after (b : Backend σ ρ) (w : World σ) : PageFetch → World σ
  | byPredicates entity predicates page =>
      ((findPage ⟨b, entity⟩ predicates).run ⟨w, page⟩).2.world
  | byText entity text values params page =>
      ((findPageByQuery ⟨b, entity⟩ text values params).run ⟨w, page⟩).2.world

/-- The world after several pages, whether they could be filled or not. -/
def fetchPages (b : Backend σ ρ) (w : World σ) (fetches : List PageFetch) : World σ :=
  fetches.foldl (PageFetch.after b) w

/-- Filling pages one after another keeps what queries keep. -/
theorem fetchPages_keeps {b : Backend σ ρ} (h : ReadsKeep b view) (w : World σ)
    (fetches : List PageFetch) : view (fetchPages b w fetches).store = view w.store := by
  induction fetches generalizing w with
  | nil => rfl
  | cons fetch fetches ih =>
      have hfirst : view (PageFetch.after b w fetch).store = view w.store := by
        cases fetch with
        | byPredicates entity predicates page =>
            exact findPage_preserves ⟨b, entity⟩ h predicates ⟨w, page⟩
        | byText entity text values params page =>
            exact findPageByQuery_preserves ⟨b, entity⟩ h text values params ⟨w, page⟩
      exact (ih (PageFetch.after b w fetch)).trans hfirst

end Repository

/-! ## Lists of rows -/

namespace Collection

/-- Recording an execution keeps all rows. -/
theorem note_preserves (kind : ExecutionKind) (target : String) (projection : Projection) :
    (note kind target projection).Preserves fun w => w.store.collections := fun _ => rfl

/-- Queries on lists of rows keep all rows, however they end. -/
theorem collection_reads : Repository.ReadsKeep backend Store.collections := by
  constructor
  · intro w
    rfl
  · intro q
    apply (note_preserves _ _ _).bind
    intro _
    have hrows : (rowsOf q.entity).Preserves fun w => w.store.collections :=
      preserves_state.bind fun _ => preserves_ofExcept _
    apply hrows.bind
    intro rows
    exact preserves_ofExcept _
  · intro q
    apply (note_preserves _ _ _).bind
    intro _
    have hrespond : (respond q).Preserves fun w => w.store.collections := by
      apply preserves_state.bind
      intro w
      apply (preserves_ofExcept _).bind
      intro responder
      cases responder with
      | fixed answer => exact preserves_pure answer
      | computed answer => exact preserves_ofExcept (answer q)
    apply hrespond.bind
    intro answer
    apply (preserves_ofExcept answer.toRows).bind
    intro rows
    exact preserves_ofExcept _

end Collection

end PagedQuery
