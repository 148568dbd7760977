import PagedQuery.Proofs.CommaLists
import PagedQuery.Proofs.RefusedCalls
import PagedQuery.WrittenPage

/-!
# Pages and their order texts

A page keeps its sort order as directions and its number at 1 or more, so what is promised of
both is part of what a page is.  On the outside a page may have any number and any order text,
which is brought into a normal form when it is assigned and passed through the same check once
more when the page is mapped.  Whatever is done to such a page, it stays the written form of a
page.

Main results:

- Theorem `normalOrder_eq`: the normal form of an order text is the text of the directions
  that are read from it.
- Theorem `assign_written`, Theorem `map_written` and Theorem `sorts_written`: assignments,
  maps and sort keys of a written page are those of the page.
- Theorem `Reached.exists_page`: every written page that is made, assigned to and mapped is
  the written form of a page.
- Theorem `WrittenPage.reached_invariant`: what holds of all of them.
-/

namespace PagedQuery

open Numeric Text

/-! ## Order texts in normal form -/

/-- A direction is found exactly under its name. -/
theorem Direction.ofName?_eq_some_iff {token : String} {d : Direction} :
    Direction.ofName? token = some d ↔ token = d.name := by
  constructor
  · intro h
    unfold Direction.ofName? at h
    split at h
    · cases h
      rfl
    · cases h
      rfl
    · cases h
  · rintro rfl
    exact Direction.ofName?_name d

/-- The names of directions are `asc` and `desc`. -/
theorem isDirectionName_iff {token : String} :
    IsDirectionName token ↔ ∃ d, Direction.ofName? token = some d := by
  simp only [Direction.ofName?_eq_some_iff]
  constructor
  · rintro (rfl | rfl)
    · exact ⟨.asc, rfl⟩
    · exact ⟨.desc, rfl⟩
  · rintro ⟨_ | _, rfl⟩
    · exact .inl rfl
    · exact .inr rfl

/-- The tokens are refused when one of them names no direction. -/
theorem checkTokens_failsIff (order : String) (tokens : List String) :
    FailsIff (checkTokens order tokens) (∃ token ∈ tokens, ¬IsDirectionName token) := by
  induction tokens with
  | nil => exact (failsIff_ok ()).congr (by simp)
  | cons token tokens ih => exact (failsIff_ite ih).congr (by simp)

/-- Tokens that pass the check are read as the directions that they name; otherwise the same
failure is reported. -/
theorem readDirections_eq (order : String) (tokens : List String) :
    (∃ directions, tokens = directions.map Direction.name ∧
      checkTokens order tokens = .ok () ∧ readDirections order tokens = .ok directions) ∨
    ∃ failure, checkTokens order tokens = .error failure ∧
      readDirections order tokens = .error failure := by
  induction tokens with
  | nil => exact .inl ⟨[], rfl, rfl, rfl⟩
  | cons token tokens ih =>
      rw [checkTokens, readDirections]
      cases hd : Direction.ofName? token with
      | none =>
          have hbad : ¬IsDirectionName token := by
            rw [isDirectionName_iff, hd]
            rintro ⟨d, ⟨⟩⟩
          rw [if_pos hbad]
          exact .inr ⟨_, rfl, rfl⟩
      | some d =>
          rw [if_neg (Classical.not_not.2 (isDirectionName_iff.2 ⟨d, hd⟩))]
          have htoken := Direction.ofName?_eq_some_iff.1 hd
          obtain ⟨directions, rfl, hcheck, hread⟩ | ⟨failure, hcheck, hread⟩ := ih
          · exact .inl ⟨d :: directions, by rw [htoken, List.map_cons], hcheck, by rw [hread]⟩
          · exact .inr ⟨failure, hcheck, by rw [hread]⟩

/-- The normal form of an order text is the text of the directions that are read from it. -/
theorem normalOrder_eq (order : String) :
    normalOrder order = (readOrder order).map orderText := by
  unfold normalOrder readOrder
  obtain ⟨directions, htokens, hcheck, hread⟩ | ⟨failure, hcheck, hread⟩ :=
    readDirections_eq order ((commaFields order).map lowerText)
  · rw [hread]
    simp only [pageTokens_some, hcheck]
    rw [htokens]
    rfl
  · rw [hread]
    simp only [pageTokens_some, hcheck]
    rfl

/-- The tokens of the text of directions are their names. -/
theorem commaFields_orderText (directions : List Direction) :
    commaFields (orderText directions) = directions.map Direction.name := by
  apply commaFields_joinTexts
  rw [List.forall_mem_map]
  intro d _
  cases d with
  | asc => exact ⟨by decide, by decide, by decide⟩
  | desc => exact ⟨by decide, by decide, by decide⟩

/-- The names of directions are in lower case. -/
theorem lowerText_name (d : Direction) : lowerText d.name = d.name := by
  cases d <;> decide

/-- Directions are read from their names. -/
theorem readDirections_names (order : String) (directions : List Direction) :
    readDirections order (directions.map Direction.name) = .ok directions := by
  induction directions with
  | nil => rfl
  | cons d directions ih =>
      rw [List.map_cons, readDirections, Direction.ofName?_name]
      simp only [ih]

/-- Directions are read back from their text. -/
theorem readOrder_orderText (directions : List Direction) :
    readOrder (orderText directions) = .ok directions := by
  have hlower : (directions.map Direction.name).map lowerText =
      directions.map Direction.name := by
    rw [List.map_map]
    exact List.map_congr_left fun d _ => lowerText_name d
  rw [readOrder, commaFields_orderText, hlower, readDirections_names]

/-- The text of directions is in normal form. -/
theorem normalOrder_orderText (directions : List Direction) :
    normalOrder (orderText directions) = .ok (orderText directions) := by
  rw [normalOrder_eq, readOrder_orderText]
  rfl

/-- What is in normal form stays as it is. -/
theorem normalOrder_idem {text order : String} (h : normalOrder text = .ok order) :
    normalOrder order = .ok order := by
  rw [normalOrder_eq] at h
  obtain ⟨directions, -, rfl⟩ := map_eq_ok h
  exact normalOrder_orderText directions

/-- An order text whose tokens name directions is accepted. -/
theorem normalOrder_of_names {text : String}
    (h : ∀ token ∈ commaFields text, IsDirectionName (lowerText token)) :
    normalOrder text = .ok (joinTexts "," ((commaFields text).map lowerText)) := by
  have hpass : ¬∃ token ∈ (commaFields text).map lowerText, ¬IsDirectionName token := by
    rintro ⟨_, hmem, hbad⟩
    obtain ⟨token, htoken, rfl⟩ := List.mem_map.1 hmem
    exact hbad (h token htoken)
  obtain ⟨⟨⟩, hcheck⟩ := (checkTokens_failsIff text _).passes hpass
  unfold normalOrder
  simp only [pageTokens_some, hcheck]

/-- An order text with a token that names no direction is refused. -/
theorem normalOrder_refused {text : String}
    (h : ¬∀ token ∈ commaFields text, IsDirectionName (lowerText token)) :
    IsRefusal (normalOrder text) := by
  have hbad : ∃ token ∈ (commaFields text).map lowerText, ¬IsDirectionName token := by
    rw [Classical.not_forall] at h
    obtain ⟨token, h⟩ := h
    rw [Classical.not_imp] at h
    exact ⟨_, List.mem_map_of_mem h.1, h.2⟩
  obtain ⟨failure, hcheck, hinvalid⟩ := (checkTokens_failsIff text _).fails hbad
  refine ⟨failure, ?_, hinvalid⟩
  unfold normalOrder
  simp only [pageTokens_some, hcheck]

/-! ## Written pages -/

namespace WrittenPage

variable {α β : Type}

/-- The pages that are made, assigned to with or without success, and mapped. -/
inductive Reached : {α : Type} → WrittenPage α → Prop where
  | made {α : Type} {r : PageRequest} {w : WrittenPage α} (h : make r = .ok w) : Reached w
  | assigned {α : Type} {w : WrittenPage α} (h : Reached w) (a : Page.Assignment α) :
      Reached ((assign a).run w).2
  | mapped {α β : Type} {w : WrittenPage α} {w' : WrittenPage β}
      {f : α → Except Failure β} (h : Reached w) (hmap : w.map f = .ok w') : Reached w'

/-! ## The written form of a page -/

/-- A page is made by writing it. -/
theorem make_written (r : PageRequest) :
    (make r : Except Failure (WrittenPage α)) = (Page.ofRequest r).map Page.written := by
  unfold make Page.ofRequest Page.setOrder
  cases r.order with
  | none => rfl
  | some text =>
      simp only [normalOrder_eq]
      cases readOrder text <;> rfl

/-- An assignment to the written form of a page is one to the page. -/
theorem assign_written (p : Page α) (a : Page.Assignment α) :
    (assign a).run p.written =
      match p.assign a with
      | .ok q => (.ok (), q.written)
      | .error failure => (.error failure, p.written) := by
  cases a with
  | order text =>
      cases text with
      | none => rfl
      | some text =>
          rw [assign, Action.run_bind, Action.run_ofExcept, normalOrder_eq, Page.assign,
            Page.setOrder]
          cases readOrder text <;> rfl
  | _ => rfl

/-- The request of a page makes the page again, without its rows. -/
theorem make_request (p : Page α) :
    (make p.written.toPageRequest : Except Failure (WrittenPage β)) =
      .ok { p.written with result := [], totalCount := -1 } := by
  have hno : max 1 p.pageNo = p.pageNo := Int.max_eq_right p.one_le_pageNo
  unfold make Page.written
  simp only [hno]
  cases p.order with
  | none => rfl
  | some directions => simp only [Option.map_some, normalOrder_orderText]

/-- The written form of a page is mapped as the page is. -/
theorem map_written (p : Page α) (f : α → Except Failure β) :
    p.written.map f = (p.map f).map Page.written := by
  have hrows : p.written.result = p.result := rfl
  rw [WrittenPage.map, make_request, Page.map]
  simp only [hrows]
  cases mapRows f p.result <;> rfl

/-- Tokens that name directions are paired with the fields. -/
theorem pairKeys_names (fields : List String) (directions : List Direction) :
    pairKeys fields (directions.map Direction.name) =
      .ok (List.zipWith SortKey.mk fields directions) := by
  induction fields generalizing directions with
  | nil => rfl
  | cons field fields ih =>
      cases directions with
      | nil => rfl
      | cons d directions =>
          rw [List.map_cons, pairKeys, Direction.ofName?_name]
          simp only [ih]
          rfl

/-- The tokens of the written form of a page are the names of its directions. -/
theorem orderTokens_written (p : Page α) :
    p.written.orderTokens = p.directions.map Direction.name := by
  unfold orderTokens Page.written Page.directions
  cases p.order with
  | none => rfl
  | some directions => exact (pageTokens_some _).trans (commaFields_orderText directions)

/-- The fields of the written form of a page are those of the page. -/
theorem sortFields_written (p : Page α) : p.written.sortFields = p.sortFields := by
  unfold sortFields Page.written Page.sortFields
  cases p.orderBy with
  | none => rfl
  | some fields => exact pageTokens_some fields

/-- The sort keys read from the written form of a page are those of the page. -/
theorem sorts_written (p : Page α) : p.written.sorts = p.sorts := by
  have hfields := sortFields_written p
  unfold sorts Page.sorts Page.isOrderBySet
  rw [hfields, orderTokens_written, pairKeys_names, List.length_map, List.isEmpty_map,
    Bool.not_and, Bool.not_not, Bool.not_not]
  rfl

/-! ## What holds of written pages -/

/-- What an assignment of an order text does. -/
structure TakesOrder (w : WrittenPage α) (text : String) : Prop where
  /-- When all tokens name directions in any case, they are kept in lower case and without
  blanks around them, and nothing else changes. -/
  accepted : (∀ token ∈ commaFields text, IsDirectionName (lowerText token)) →
    (assign (.order (some text))).run w =
      (.ok (), { w with order := some (joinTexts "," ((commaFields text).map lowerText)) })
  /-- What has been kept is accepted again and kept as it is. -/
  again : ∀ w', (assign (.order (some text))).run w = (.ok (), w') →
    (assign (.order w'.order)).run w' = (.ok (), w')
  /-- When a token names no direction, nothing changes. -/
  rejected : (¬∀ token ∈ commaFields text, IsDirectionName (lowerText token)) →
    IsRefusal ((assign (.order (some text))).run w).1 ∧
      ((assign (.order (some text))).run w).2 = w

/-- What the sort keys are, told by the fields and by the tokens of the order text. -/
structure SortsByTokens (w : WrittenPage α) : Prop where
  nothing_iff : w.sorts = .ok [] ↔ w.sortFields = [] ∨ w.orderTokens = []
  refused_iff : IsRefusal w.sorts ↔
    w.sortFields ≠ [] ∧ w.orderTokens ≠ [] ∧ w.sortFields.length ≠ w.orderTokens.length
  /-- Each field is paired with the direction at its place. -/
  paired : w.sortFields.length = w.orderTokens.length →
    ∃ keys, w.sorts = .ok keys ∧ keys.map (·.field) = w.sortFields ∧
      keys.map (·.direction.name) = w.orderTokens
  /-- There is no failure of any other kind. -/
  fails : ∀ failure, w.sorts = .error failure → failure.isInvalidArgument = true

/-- The page stands for the written page, which changes, is mapped and sorts as the page
does. -/
structure StandsFor (p : Page α) (w : WrittenPage α) : Prop where
  written : w = p.written
  assigned : ∀ a, (assign a).run w =
    match p.assign a with
    | .ok q => (.ok (), q.written)
    | .error failure => (.error failure, p.written)
  mapped : ∀ {β : Type} (f : α → Except Failure β), w.map f = (p.map f).map Page.written
  sorts : w.sorts = p.sorts

/-- What is promised of a page whatever has been done to it. -/
structure Invariant (w : WrittenPage α) : Prop where
  one_le_pageNo : 1 ≤ w.pageNo
  order : ∀ text, w.order = some text →
    ∃ tokens, (∀ token ∈ tokens, IsDirectionName token) ∧ text = joinTexts "," tokens
  takesOrder : ∀ text, w.TakesOrder text
  sortsByTokens : w.SortsByTokens
  page : ∃ p : Page α, StandsFor p w

/-- An order text is kept in its normal form, if it has one. -/
theorem assign_order_run (w : WrittenPage α) (text : String) :
    (assign (.order (some text))).run w =
      match normalOrder text with
      | .ok order => (.ok (), { w with order := some order })
      | .error failure => (.error failure, w) := by
  rw [assign, Action.run_bind, Action.run_ofExcept]
  cases normalOrder text <;> rfl

/-- An order text is assigned to any page in the same way. -/
theorem takesOrder (w : WrittenPage α) (text : String) : w.TakesOrder text := by
  have hrun := assign_order_run w text
  constructor
  case accepted =>
    intro hnames
    rw [hrun, normalOrder_of_names hnames]
  case again =>
    intro w' haccepted
    rw [hrun] at haccepted
    cases horder : normalOrder text with
    | error failure =>
        rw [horder] at haccepted
        cases haccepted
    | ok order =>
        rw [horder] at haccepted
        cases haccepted
        rw [assign, Action.run_bind, Action.run_ofExcept, normalOrder_idem horder]
        rfl
  case rejected =>
    intro hbad
    obtain ⟨failure, hfail, hinvalid⟩ := normalOrder_refused hbad
    rw [hrun, hfail]
    exact ⟨⟨failure, rfl, hinvalid⟩, rfl⟩

/-- As many fields as directions are told apart again in their keys. -/
theorem zipWith_keys {fields : List String} {directions : List Direction}
    (h : fields.length = directions.length) :
    (List.zipWith SortKey.mk fields directions).map (·.field) = fields ∧
      (List.zipWith SortKey.mk fields directions).map (·.direction.name) =
        directions.map Direction.name := by
  induction fields generalizing directions with
  | nil =>
      cases directions with
      | nil => exact ⟨rfl, rfl⟩
      | cons d directions => cases h
  | cons field fields ih =>
      cases directions with
      | nil => cases h
      | cons d directions =>
          obtain ⟨hfields, hnames⟩ := ih (Nat.succ.inj h)
          exact ⟨congrArg (field :: ·) hfields, congrArg (d.name :: ·) hnames⟩

/-- A page has no sort keys when it has no fields or no directions. -/
theorem sorts_unset {p : Page α} (h : p.sortFields = [] ∨ p.directions = []) :
    p.sorts = .ok [] := by
  unfold Page.sorts Page.isOrderBySet
  rw [if_pos]
  rcases h with h | h <;> simp [h]

/-- As many fields as directions make the sort keys. -/
theorem sorts_paired {p : Page α} (h : p.sortFields.length = p.directions.length) :
    p.sorts = .ok (List.zipWith SortKey.mk p.sortFields p.directions) := by
  unfold Page.sorts
  split
  · rename_i hunset
    have hnone : p.sortFields = [] ∨ p.directions = [] := by
      simpa [Page.isOrderBySet] using hunset
    rcases hnone with hnone | hnone <;> simp [hnone]
  · rw [if_neg (by simpa using h)]

/-- The sort keys of the written form of a page are told by its fields and its tokens. -/
theorem sortsByTokens (p : Page α) : p.written.SortsByTokens := by
  have hrows : FailsIff p.sorts (p.withRows ([] : List Value)).HasBadSorts :=
    sorts_failsIff (p.withRows [])
  have hfields := sortFields_written p
  have htokens : p.written.orderTokens = [] ↔ p.directions = [] := by
    rw [orderTokens_written, List.map_eq_nil_iff]
  have hlength : p.written.orderTokens.length = p.directions.length := by
    rw [orderTokens_written, List.length_map]
  constructor
  case nothing_iff =>
    rw [sorts_written, hfields, htokens]
    refine ⟨fun hnothing => ?_, sorts_unset⟩
    apply Classical.byContradiction
    intro hset
    rw [not_or] at hset
    have hequal : p.sortFields.length = p.directions.length :=
      Classical.byContradiction fun hdiffer =>
        hrows.not_of_ok hnothing ⟨hset.1, hset.2, hdiffer⟩
    rw [sorts_paired hequal] at hnothing
    have hkeys := (zipWith_keys hequal).1
    rw [Except.ok.inj hnothing] at hkeys
    exact hset.1 hkeys.symm
  case refused_iff =>
    rw [sorts_written, hrows.isRefusal_iff, hfields, hlength]
    exact and_congr_right fun _ => and_congr_left' (not_congr htokens.symm)
  case paired =>
    intro hequal
    rw [hfields, hlength] at hequal
    obtain ⟨hkeys, hnames⟩ := zipWith_keys hequal
    exact ⟨_, (sorts_written p).trans (sorts_paired hequal), hkeys.trans hfields.symm,
      hnames.trans (orderTokens_written p).symm⟩
  case fails =>
    intro failure hfail
    rw [sorts_written] at hfail
    exact hrows.invalid hfail

/-- Every written page that is reached is the written form of a page. -/
theorem Reached.exists_page {w : WrittenPage α} (h : Reached w) :
    ∃ p : Page α, w = p.written := by
  induction h with
  | made h =>
      rw [make_written] at h
      obtain ⟨p, -, rfl⟩ := map_eq_ok h
      exact ⟨p, rfl⟩
  | assigned _ a ih =>
      obtain ⟨p, rfl⟩ := ih
      rw [assign_written]
      cases p.assign a with
      | ok q => exact ⟨q, rfl⟩
      | error failure => exact ⟨p, rfl⟩
  | mapped _ hmap ih =>
      obtain ⟨p, rfl⟩ := ih
      rw [map_written] at hmap
      obtain ⟨q, -, rfl⟩ := map_eq_ok hmap
      exact ⟨q, rfl⟩

/-- Whatever has been done to a page, accepted or not, its number is at least 1 and its order
text a list of directions.  An order is accepted when all its tokens name directions, is kept
in normal form, and changes nothing when it is rejected.  The sort keys are therefore never
anything but none, refused for a different number of fields and directions, or one for each
field. -/
theorem reached_invariant {w : WrittenPage α} (h : Reached w) : Invariant w := by
  obtain ⟨p, rfl⟩ := h.exists_page
  constructor
  case one_le_pageNo => exact p.one_le_pageNo
  case order =>
    intro text htext
    obtain ⟨directions, -, rfl⟩ := Option.map_eq_some_iff.1 htext
    refine ⟨directions.map Direction.name, ?_, rfl⟩
    intro token htoken
    obtain ⟨d, -, rfl⟩ := List.mem_map.1 htoken
    exact isDirectionName_iff.2 ⟨d, Direction.ofName?_name d⟩
  case takesOrder => exact takesOrder p.written
  case sortsByTokens => exact sortsByTokens p
  case page =>
    exact ⟨p, rfl, assign_written p, map_written p, sorts_written p⟩

/-- A page is made with two directions, then another order is rejected, a number below 1 is
assigned, and the page is mapped. -/
theorem reached_invariant_mapped :
    ∃ w : WrittenPage Value, Reached w ∧ Invariant w ∧ w.pageNo = 1 ∧
      w.order = some "desc,asc" ∧ w.sorts = .ok [⟨"name", .desc⟩, ⟨"age", .asc⟩] := by
  let r : PageRequest :=
    { pageSize := 10, orderBy := some "name, age", order := some " DESC,, asc" }
  have hmade : Reached (⟨{ r with order := some "desc,asc" }, [], -1⟩ : WrittenPage Value) :=
    .made (r := r) rfl
  have hmapped : Reached (⟨{ r with order := some "desc,asc" }, [], -1⟩ : WrittenPage Value) :=
    .mapped (f := Transform.wrap.apply)
      ((hmade.assigned (.order (some "up"))).assigned (.pageNo (-3))) rfl
  exact ⟨_, hmapped, reached_invariant hmapped, rfl, rfl, rfl⟩

end WrittenPage

end PagedQuery
