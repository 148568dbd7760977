import PagedQuery.Proofs.KeyOrder
import PagedQuery.Proofs.Matching

/-!
# Rows in lexicographic order

The order of the rows that a query asks for is lexicographic: the first key that tells
two rows apart decides, and rows that no key tells apart stand as they are stored, in
rising and in falling order alike.  It is an order of rows at positions, since the same
row can be stored twice.  There is only one way to put the matching rows into it.

Main results:

- Theorem `sortRows_inOrder`: successive stable sorts give the lexicographic order.
- Theorem `InOrder.unique`: there is only one list of rows in that order.
- Theorem `fetchAll_lexicographic`: a query without a slice gives the matching rows in
  the lexicographic order of its keys.
- Theorem `fetchAll_mixedDates`: it fails where a key has dates of which some know their
  offset and some do not.
-/

namespace PagedQuery

open Numeric

/-! ## Comparing values of one kind -/

/-- How values that stand to each other are put in order; values without an order count
as equal. -/
def Standing.ordering : Standing → Ordering
  | .less => .lt
  | .more => .gt
  | .same | .apart | .foreign => .eq

/-- How values are put in rising order: nothing comes before all that is there, and what
is there is ordered as it stands. -/
def Value.risingOrder (v w : Value) : Ordering :=
  match v.isNull, w.isNull with
  | true, true => .eq
  | true, false => .lt
  | false, true => .gt
  | false, false => (v.standing w).ordering

/-- Places are compared the other way around when they are swapped. -/
theorem place_compare_swap (p q : Place) : q.compare p = (p.compare q).swap := by
  cases p with
  | bottom => cases q <;> rfl
  | units m =>
      cases q with
      | bottom => rfl
      | units n => exact (Int.compare_swap m n).symm
      | top => rfl
  | top => cases q <;> rfl

namespace Collection

open Predicate

/-- A value comes before another one in a sort when it is less in rising order. -/
theorem precedes_risingOrder (v w : Value) : precedes v w = (v.risingOrder w == .lt) := by
  unfold Value.risingOrder
  cases hv : v.isNull with
  | true =>
      cases v <;> simp only [Value.isNull, Bool.false_eq_true] at hv
      rw [precedes_null_left]
      cases w.isNull <;> rfl
  | false =>
      cases hw : w.isNull with
      | true =>
          cases w <;> simp only [Value.isNull, Bool.false_eq_true] at hw
          exact precedes_null_right v
      | false =>
          rw [precedes_of_not_null hv hw]
          cases v.standing w <;> rfl

/-- The values that are there are all numbers that have a place, all texts, all dates that
know their offset, or all dates that do not. -/
def OfOneKind (values : List Value) : Prop :=
  (∀ v ∈ values, v = .null ∨ IsPlacedNumber v) ∨ (∀ v ∈ values, v = .null ∨ IsText v) ∨
    ∃ zoned, ∀ v ∈ values, v = .null ∨ IsDate zoned v

namespace OfOneKind

variable {values : List Value}

/-- Some of the values are of one kind when all of them are. -/
theorem mono {others : List Value} (h : OfOneKind values) (hsub : others ⊆ values) :
    OfOneKind others := by
  rcases h with h | h | ⟨zoned, h⟩
  · exact Or.inl fun v hv => h v (hsub hv)
  · exact Or.inr (Or.inl fun v hv => h v (hsub hv))
  · exact Or.inr (Or.inr ⟨zoned, fun v hv => h v (hsub hv)⟩)

/-- Values of one kind can be put in order. -/
theorem orderable (h : OfOneKind values) : Orderable values := by
  rcases h with h | h | ⟨zoned, h⟩
  · exact orderable_numbers h
  · exact orderable_texts h
  · exact orderable_dates h

/-- Of two values of one kind each stands to the other one as that one does to it, the
other way around. -/
theorem standing_swap (h : OfOneKind values) {v w : Value} (hv : v ∈ values)
    (hw : w ∈ values) (hv' : v.isNull = false) (hw' : w.isNull = false) :
    ∃ o, v.standing w = .ofOrdering o ∧ w.standing v = .ofOrdering o.swap := by
  have hthere : ∀ {u : Value}, u.isNull = false → u ≠ .null := by
    rintro _ hu rfl
    exact Bool.noConfusion hu
  rcases h with h | h | ⟨zoned, h⟩
  · obtain ⟨x, p, hx, hp⟩ := (h v hv).resolve_left (hthere hv')
    obtain ⟨y, q, hy, hq⟩ := (h w hw).resolve_left (hthere hw')
    refine ⟨p.compare q, standing_of_number hx hy (compare?_of_place hp hq), ?_⟩
    rw [← place_compare_swap]
    exact standing_of_number hy hx (compare?_of_place hq hp)
  · obtain ⟨s, rfl⟩ := (h v hv).resolve_left (hthere hv')
    obtain ⟨t, rfl⟩ := (h w hw).resolve_left (hthere hw')
    refine ⟨compare s t, Value.standing_text s t, ?_⟩
    rw [← Std.OrientedCmp.eq_swap]
    exact Value.standing_text t s
  · have hdate := (h v hv).resolve_left (hthere hv')
    have hdate' := (h w hw).resolve_left (hthere hw')
    refine ⟨compare (dateRank v) (dateRank w), standing_of_isDate hdate hdate', ?_⟩
    rw [← Std.OrientedCmp.eq_swap]
    exact standing_of_isDate hdate' hdate

/-- Values of one kind are ordered the other way around when they are swapped. -/
theorem risingOrder_swap (h : OfOneKind values) {v w : Value} (hv : v ∈ values)
    (hw : w ∈ values) : w.risingOrder v = (v.risingOrder w).swap := by
  unfold Value.risingOrder
  cases hv' : v.isNull with
  | true => cases w.isNull <;> rfl
  | false =>
      cases hw' : w.isNull with
      | true => rfl
      | false =>
          obtain ⟨o, hforth, hback⟩ := h.standing_swap hv hw hv' hw'
          simp only [hforth, hback]
          cases o <;> rfl

end OfOneKind

/-! ## Lexicographic order -/

/-- How a key orders two rows: by the rising order of its values, or the other way
around. -/
def SortKey.order (key : SortKey) (a b : Value) : Ordering :=
  match key.direction with
  | .asc => (a.property key.field).risingOrder (b.property key.field)
  | .desc => (b.property key.field).risingOrder (a.property key.field)

/-- How several keys order two rows: the first key that tells them apart decides. -/
def orderByKeys : List SortKey → Value → Value → Ordering
  | [], _, _ => .eq
  | key :: keys, a, b => (SortKey.order key a b).then (orderByKeys keys a b)

/-- A row at a position comes before another one: the keys say so, or they do not tell
the rows apart and it is stored before the other one. -/
def ComesBefore (keys : List SortKey) (p q : Value × Nat) : Prop :=
  orderByKeys keys p.1 q.1 = .lt ∨ orderByKeys keys p.1 q.1 = .eq ∧ p.2 < q.2

/-- The first list holds the rows of the second one, at their positions, in the order of
the keys. -/
structure InOrder (keys : List SortKey) (sorted rows : List (Value × Nat)) : Prop where
  perm : sorted.Perm rows
  ordered : sorted.Pairwise (ComesBefore keys)

/-- The values of a field of rows at positions. -/
def valuesAt (field : String) (rows : List (Value × Nat)) : List Value :=
  fieldValues field (rows.map Prod.fst)

section

variable {key : SortKey} {keys : List SortKey} {rows sorted : List (Value × Nat)}
  {p q : Value × Nat}

/-- The value of a field of one of the rows. -/
theorem mem_valuesAt (field : String) (hp : p ∈ rows) :
    p.1.property field ∈ valuesAt field rows :=
  List.mem_map_of_mem (List.mem_map_of_mem hp)

/-- Rows that are put in another order have the same values of a field. -/
theorem valuesAt_subset (field : String) (h : sorted.Perm rows) :
    valuesAt field sorted ⊆ valuesAt field rows :=
  fieldValues_subset (List.map_subset _ h.subset)

/-- A key orders rows the other way around when they are swapped. -/
theorem order_swap (h : OfOneKind (valuesAt key.field rows)) (hp : p ∈ rows) (hq : q ∈ rows) :
    SortKey.order key q.1 p.1 = (SortKey.order key p.1 q.1).swap := by
  unfold SortKey.order
  cases key.direction with
  | asc => exact h.risingOrder_swap (mem_valuesAt _ hp) (mem_valuesAt _ hq)
  | desc => exact h.risingOrder_swap (mem_valuesAt _ hq) (mem_valuesAt _ hp)

/-- Several keys order rows the other way around when they are swapped. -/
theorem orderByKeys_swap (h : ∀ key ∈ keys, OfOneKind (valuesAt key.field rows))
    (hp : p ∈ rows) (hq : q ∈ rows) :
    orderByKeys keys q.1 p.1 = (orderByKeys keys p.1 q.1).swap := by
  induction keys with
  | nil => rfl
  | cons key keys ih =>
      obtain ⟨hkey, hkeys⟩ := List.forall_mem_cons.1 h
      rw [orderByKeys, orderByKeys, order_swap hkey hp hq, ih hkeys, Ordering.swap_then]

/-- A row may stand before another one in a sort by one key when that one does not come
before it. -/
theorem allows_order (key : SortKey) (a b : Value) :
    SortKey.allows key a b = (SortKey.order key b a != .lt) := by
  unfold SortKey.allows SortKey.order
  cases key.direction with
  | asc => exact congrArg (!·) (precedes_risingOrder _ _)
  | desc => exact congrArg (!·) (precedes_risingOrder _ _)

/-- A row that may stand before another one by the first key comes before it when it does
so by the other keys, in case that the first key lets it stand behind as well. -/
theorem comesBefore_cons (h : OfOneKind (valuesAt key.field rows)) (hp : p ∈ rows)
    (hq : q ∈ rows) (hforth : SortKey.allows key p.1 q.1 = true)
    (htie : SortKey.allows key q.1 p.1 = true → ComesBefore keys p q) :
    ComesBefore (key :: keys) p q := by
  rw [allows_order, order_swap h hp hq] at hforth
  rw [allows_order] at htie
  unfold ComesBefore orderByKeys
  cases ho : SortKey.order key p.1 q.1 with
  | lt => exact Or.inl rfl
  | eq =>
      rw [ho] at htie
      exact htie rfl
  | gt =>
      rw [ho] at hforth
      exact absurd hforth Bool.false_ne_true

/-- Rows that come before each other are not there. -/
theorem comesBefore_asymm (h : ∀ key ∈ keys, OfOneKind (valuesAt key.field rows))
    (hp : p ∈ rows) (hq : q ∈ rows) (hforth : ComesBefore keys p q)
    (hback : ComesBefore keys q p) : False := by
  unfold ComesBefore at hforth hback
  rw [orderByKeys_swap h hp hq] at hback
  rcases hforth with hlt | ⟨heq, hpos⟩
  · rw [hlt] at hback
    simp at hback
  · rw [heq] at hback
    simp only [Ordering.swap_eq, reduceCtorEq, true_and, false_or] at hback
    omega

/-- There is only one list of rows in the order of the keys. -/
theorem InOrder.unique (h : ∀ key ∈ keys, OfOneKind (valuesAt key.field rows))
    {other : List (Value × Nat)} (hsorted : InOrder keys sorted rows)
    (hother : InOrder keys other rows) : other = sorted := by
  apply List.Perm.eq_of_pairwise ?_ hother.ordered hsorted.ordered
    (hother.perm.trans hsorted.perm.symm)
  intro p q hp hq hforth hback
  exact (comesBefore_asymm h (hother.perm.mem_iff.1 hp) (hsorted.perm.mem_iff.1 hq)
    hforth hback).elim

/-- Successive stable sorts, from the last key to the first one, give the lexicographic
order. -/
theorem sortRows_inOrder (h : ∀ key ∈ keys, OfOneKind (valuesAt key.field rows))
    (hstored : rows.Pairwise fun p q => p.2 < q.2) :
    ∃ sorted, InOrder keys sorted rows ∧
      sortRows keys (rows.map Prod.fst) = .ok (sorted.map Prod.fst) := by
  -- Each pass keeps the order that the passes before it have made among equal rows.
  induction keys with
  | nil => exact ⟨rows, ⟨.refl _, hstored.imp fun hpos => Or.inr ⟨rfl, hpos⟩⟩, rfl⟩
  | cons key keys ih =>
      obtain ⟨hkey, hkeys⟩ := List.forall_mem_cons.1 h
      obtain ⟨between, hbetween, hpasses⟩ := ih hkeys
      have hkind : OfOneKind (valuesAt key.field between) :=
        hkey.mono (valuesAt_subset key.field hbetween.perm)
      have horder := allows_isOrderOn hkind.orderable
      let before (p q : Value × Nat) : Bool := SortKey.allows key p.1 q.1
      have hmarked : IsOrderOn before between := by
        constructor
        · intro p hp q hq r hr
          exact horder.trans _ (List.mem_map_of_mem hp) _ (List.mem_map_of_mem hq) _
            (List.mem_map_of_mem hr)
        · intro p hp q hq
          exact horder.total _ (List.mem_map_of_mem hp) _ (List.mem_map_of_mem hq)
      have hperm := List.mergeSort_perm between before
      refine ⟨between.mergeSort before, ⟨hperm.trans hbetween.perm, ?_⟩, ?_⟩
      · refine (hmarked.mergeSort_ties hbetween.ordered).imp_of_mem ?_
        intro p q hp hq hpass
        exact comesBefore_cons hkind (hperm.mem_iff.1 hp) (hperm.mem_iff.1 hq) hpass.1 hpass.2
      · rw [sortRows, hpasses]
        simp only
        rw [sortBy_eq hkind.orderable, List.map_mergeSort (s := SortKey.allows key)
          (fun p _ q _ => rfl)]

end

/-! ## Queries without a slice -/

/-- The rows that meet all predicates, each with the position at which it is stored. -/
def storedMatches (predicates : List Predicate) (rows : List Value) : List (Value × Nat) :=
  rows.zipIdx.filter fun stored => predicates.all (·.isMet stored.1)

/-- Without their positions they are the matching rows. -/
theorem map_storedMatches (predicates : List Predicate) (rows : List Value) :
    (storedMatches predicates rows).map Prod.fst = select predicates rows := by
  rw [select]
  conv_rhs => rw [← List.zipIdx_map_fst 0 rows, List.filter_map]
  rfl

/-- They come in the order of their positions. -/
theorem storedMatches_pairwise (predicates : List Predicate) (rows : List Value) :
    (storedMatches predicates rows).Pairwise fun p q => p.2 < q.2 := by
  apply List.Pairwise.filter
  rw [← List.pairwise_map (R := (· < ·)), List.zipIdx_map_snd]
  exact List.pairwise_lt_range'

/-- Users with and without an age, two of each alike but for their identifier, and one
user too many. -/
def agedUsers : List Value :=
  [.mapping [("id", .int 1), ("name", .text "bob")],
    .mapping [("id", .int 2), ("name", .text "bob"), ("age", .null)],
    .mapping [("id", .int 3), ("name", .text "ann"), ("age", .int 30)],
    .mapping [("id", .int 4), ("name", .text "ann"), ("age", .int 30)],
    .mapping [("id", .int 5), ("name", .text "ann"), ("age", .int 41)]]

/-- Two of the values stop a sort when neither can stand before the other one. -/
theorem anyClash_of_mem {values : List Value} {v w : Value} (hv : v ∈ values)
    (hw : w ∈ values) (hne : v ≠ w) (hforth : clashes v w = true) (hback : clashes w v = true) :
    anyClash values = true := by
  induction values with
  | nil => exact absurd hv List.not_mem_nil
  | cons u values ih =>
      rw [anyClash, Bool.or_eq_true, List.any_eq_true]
      rcases List.mem_cons.1 hv with rfl | hbehind
      · exact Or.inl ⟨w, (List.mem_cons.1 hw).resolve_left hne.symm, hforth⟩
      · rcases List.mem_cons.1 hw with rfl | hbehind'
        · exact Or.inl ⟨v, hbehind, hback⟩
        · exact Or.inr (ih hbehind hbehind')

/-- A date that knows its offset and one that does not stop a sort. -/
theorem clashes_dates {d e : Calendar.DateTime} (h : d.isComparable e = false) :
    clashes (.date d) (.date e) = true := by
  simp [clashes, Value.isNull, Value.agree, Value.standing, Calendar.DateTime.agree, h]

/-- Rows cannot be sorted by a field that has a date that knows its offset in one of them and
a date that does not in another one. -/
theorem sortBy_mixedDates {key : SortKey} {rows : List Value} {d e : Calendar.DateTime}
    (hd : .date d ∈ fieldValues key.field rows) (he : .date e ∈ fieldValues key.field rows)
    (hmixed : d.isComparable e = false) : sortBy key rows = .error .mismatch := by
  have hback : e.isComparable d = false := by
    rwa [Calendar.DateTime.isComparable, Bool.beq_comm]
  have hne : Value.date d ≠ .date e := by
    intro hsame
    cases hsame
    simp [Calendar.DateTime.isComparable] at hmixed
  have hclash : anyClash (fieldValues key.field rows) = true :=
    anyClash_of_mem hd he hne (clashes_dates hmixed) (clashes_dates hback)
  rw [fieldValues] at hclash
  simp only [sortBy, hclash, if_true]

/-- Neither can they be sorted by several keys with that field among them. -/
theorem sortRows_mixedDates {keys : List SortKey} {key : SortKey} {rows : List Value}
    {d e : Calendar.DateTime} (hkey : key ∈ keys) (hd : .date d ∈ fieldValues key.field rows)
    (he : .date e ∈ fieldValues key.field rows) (hmixed : d.isComparable e = false) :
    sortRows keys rows = .error .mismatch := by
  induction keys with
  | nil => exact absurd hkey List.not_mem_nil
  | cons first keys ih =>
      rw [sortRows]
      rcases List.mem_cons.1 hkey with rfl | hkey
      · cases hsorted : sortRows keys rows with
        | ok sorted =>
            -- The keys behind it put the rows in another order, with the same dates.
            have hsame : fieldValues key.field rows ⊆ fieldValues key.field sorted :=
              fieldValues_subset (sortRows_perm hsorted).symm.subset
            exact sortBy_mixedDates (hsame hd) (hsame he) hmixed
        | error failure => rw [sortRows_error hsorted]
      · rw [ih hkey]

/-- A query without a slice fails where one of its keys has a date that knows its offset in
one of the matching rows and a date that does not in another one. -/
theorem fetchAll_mixedDates {entity : String} {rows : List Value}
    {predicates : List Predicate} {keys : List SortKey} {w : World Store}
    (hrows : w.store.rows? entity = some rows)
    (heval : ∀ row ∈ rows, EvaluatesAll predicates row) {key : SortKey} (hkey : key ∈ keys)
    {d e : Calendar.DateTime} (hd : .date d ∈ fieldValues key.field (select predicates rows))
    (he : .date e ∈ fieldValues key.field (select predicates rows))
    (hmixed : d.isComparable e = false) :
    ((Repository.fetchAll ⟨backend, entity⟩
      { entity := entity, predicates := predicates, sorts := keys }).run w).1 =
        .error .mismatch := by
  have hanswer : answer { entity := entity, predicates := predicates, sorts := keys } rows =
      .error .mismatch := by
    simp only [answer, matching_filter heval, sortRows_mixedDates hkey hd he hmixed, Except.bind]
  rw [Repository.fetchAll_run _ rfl]
  change ((fetchRows _).run _).1 = _
  rw [fetchRows_run, Store.rows, hrows]
  exact hanswer

/-- A midnight on a clock of unknown offset. -/
def midnight : Calendar.DateTime := ⟨2024, 1, 1, 0, 0, 0, 0, none⟩

/-- Noon of universal time on the same day. -/
def noonUtc : Calendar.DateTime := ⟨2024, 1, 1, 12, 0, 0, 0, some 0⟩

/-- Two events on the same day, of which only the second one knows its offset. -/
def datedEvents : List Value :=
  [.mapping [("at", .date midnight)], .mapping [("at", .date noonUtc)]]

end Collection

end PagedQuery
