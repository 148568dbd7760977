import Mathlib
import PagedQuery.Proofs.StableSort

/-!
# Rows in the order of their sort keys

Sorting by several keys goes from the least significant key to the most
significant one.  As each pass is stable, the rows end up in lexicographic order
of the keys, and rows that no key tells apart keep the order in which they came.

Main results:

- Theorem `orderable_numbers`, Theorem `orderable_texts` and Theorem
  `orderable_dates`: numbers that have a place, texts, and dates can be put in
  order, also with nothing among them.
- Theorem `sortRows_ok`: rows whose key values can be compared are sorted.
- Theorem `sortRows_standsBefore`: the sorted rows stand in the order of the keys.
-/

namespace PagedQuery

open Numeric

/-! ## Comparing numbers -/

/-- Where a place of the extended line stands among all places. -/
def placeRank : Place → WithBot (WithTop ℤ)
  | .bottom => ⊥
  | .units n => ((n : WithTop ℤ) : WithBot (WithTop ℤ))
  | .top => ((⊤ : WithTop ℤ) : WithBot (WithTop ℤ))

/-- Places are compared as their ranks are. -/
theorem place_compare_eq_lt (p q : Place) :
    p.compare q = .lt ↔ placeRank p < placeRank q := by
  cases p with
  | bottom => cases q <;> simp [Place.compare, placeRank, WithBot.bot_lt_coe]
  | units m =>
      cases q with
      | bottom => simp [Place.compare, placeRank]
      | units n => simp [Place.compare, placeRank, compare_lt_iff_lt]
      | top => exact iff_of_true rfl (WithBot.coe_lt_coe.2 (WithTop.coe_lt_top m))
  | top => cases q <;> simp [Place.compare, placeRank]

/-- A place stands where it stands. -/
theorem place_compare_self (p : Place) : p.compare p = .eq := by
  cases p <;> simp [Place.compare]

theorem unitsPerOne_pos : 0 < (unitsPerOne : ℤ) := by
  have h : 0 < unitsPerOne := by
    unfold unitsPerOne
    apply Nat.pow_pos
    decide
  exact Int.natCast_pos.2 h

/-- Numbers are compared as their places are. -/
theorem compare?_of_place {x y : Number} {p q : Place} (hx : x.place? = some p)
    (hy : y.place? = some q) : x.compare? y = some (p.compare q) := by
  cases x with
  | whole m =>
      cases y with
      | whole n =>
          simp only [Number.place?, Option.some.injEq] at hx hy
          subst hx hy
          simp only [Number.compare?, Place.compare, Option.some.injEq]
          rcases lt_trichotomy m n with hlt | heq | hgt
          · rw [compare_lt_iff_lt.2 hlt, compare_lt_iff_lt.2 (Int.mul_lt_mul_of_pos_right hlt unitsPerOne_pos)]
          · rw [heq, compare_eq_iff_eq.2 rfl, compare_eq_iff_eq.2 rfl]
          · rw [compare_gt_iff_gt.2 hgt, compare_gt_iff_gt.2 (Int.mul_lt_mul_of_pos_right hgt unitsPerOne_pos)]
      | double y => simp [Number.compare?, hx, hy]
  | double x => simp [Number.compare?, hx, hy]

/-- Numbers are equal as values when they compare as equal. -/
theorem agree_of_number {v w : Value} {x y : Number} (hv : v.number? = some x)
    (hw : w.number? = some y) : v.agree w = (x.compare? y == some .eq) := by
  cases v <;> simp only [Value.number?, Option.some.injEq, reduceCtorEq] at hv <;>
    cases w <;> simp only [Value.number?, Option.some.injEq, reduceCtorEq] at hw <;>
    subst hv hw <;> rfl

/-- Numbers stand to each other as they compare. -/
theorem standing_of_number {v w : Value} {x y : Number} {o : Ordering}
    (hv : v.number? = some x) (hw : w.number? = some y) (h : x.compare? y = some o) :
    v.standing w = .ofOrdering o := by
  cases v <;> simp only [Value.number?, Option.some.injEq, reduceCtorEq] at hv <;>
    cases w <;> simp only [Value.number?, Option.some.injEq, reduceCtorEq] at hw <;>
    subst hv hw <;> simp [Value.standing, Value.number?, h]

namespace Collection

/-! ## Values that can be put in order -/

/-- Any two of the values are equal or have a common order. -/
def Comparable (values : List Value) : Prop :=
  ∀ v ∈ values, ∀ w ∈ values, clashes v w = false

/-- The values can be put in order: any two of them can be compared, each one is
equal to itself, and what comes before what is decided by a rank. -/
structure Orderable (values : List Value) : Prop where
  comparable : Comparable values
  placed : ∀ v ∈ values, isPlaced v = true
  ranked : ∃ (ι : Type) (_ : LinearOrder ι) (rank : Value → ι),
    ∀ v ∈ values, ∀ w ∈ values, precedes v w = decide (rank v < rank w)

/-- Some of the values can be compared when all of them can. -/
theorem Comparable.mono {values others : List Value} (h : Comparable values)
    (hsub : others ⊆ values) : Comparable others := by
  intro v hv w hw
  exact h v (hsub hv) w (hsub hw)

/-- Some of the values can be put in order when all of them can. -/
theorem Orderable.mono {values others : List Value} (h : Orderable values)
    (hsub : others ⊆ values) : Orderable others := by
  obtain ⟨ι, order, rank, hrank⟩ := h.ranked
  constructor
  · exact h.comparable.mono hsub
  · intro v hv
    exact h.placed v (hsub hv)
  · exact ⟨ι, order, rank, fun v hv w hw => hrank v (hsub hv) w (hsub hw)⟩

/-- Among values that can be compared no pair stops a sort. -/
theorem anyClash_eq_false {values : List Value} (h : Comparable values) :
    anyClash values = false := by
  induction values with
  | nil => rfl
  | cons v values ih =>
      have hrest : anyClash values = false :=
        ih (h.mono (List.subset_cons_self v values))
      have hfirst : values.any (clashes v) = false := by
        rw [List.any_eq_false]
        intro w hw
        simp [h v (by simp) w (by simp [hw])]
      rw [anyClash, hfirst, hrest]
      rfl

/-- Nothing comes before every other value. -/
theorem precedes_null_left (w : Value) : precedes .null w = !w.isNull := by
  cases w <;> rfl

/-- No value comes before nothing. -/
theorem precedes_null_right (v : Value) : precedes v .null = false := by
  cases v <;> rfl

/-- Values that are there come before each other as they stand to each other. -/
theorem precedes_of_not_null {v w : Value} (hv : v.isNull = false) (hw : w.isNull = false) :
    precedes v w = (v.standing w == .less) := by
  cases v <;> cases w <;> simp_all [precedes, Value.isNull]

/-- Values of one kind can be put in order, also with nothing among them, when a
rank tells how they stand to each other. -/
theorem orderable_of_rank {ι : Type} [LinearOrder ι] {kind : Value → Prop} (rank : Value → ι)
    (hthere : ∀ v, kind v → v.isNull = false) (hself : ∀ v, kind v → v.agree v = true)
    (hstanding : ∀ v w, kind v → kind w →
      ∃ o, v.standing w = .ofOrdering o ∧ (o = .lt ↔ rank v < rank w))
    {values : List Value} (h : ∀ v ∈ values, v = .null ∨ kind v) : Orderable values := by
  constructor
  · intro v hv w hw
    rcases h v hv with rfl | hkv
    · rfl
    · rcases h w hw with rfl | hkw
      · simp [clashes, Value.isNull]
      · obtain ⟨o, ho, -⟩ := hstanding v w hkv hkw
        rw [clashes, ho]
        cases o <;> simp [Standing.ofOrdering]
  · intro v hv
    rcases h v hv with rfl | hkv
    · rfl
    · exact hself v hkv
  · have hnull : Value.isNull .null = true := rfl
    let place (v : Value) : WithBot ι := if v.isNull then ⊥ else (rank v : WithBot ι)
    refine ⟨WithBot ι, inferInstance, place, ?_⟩
    intro v hv w hw
    rcases h v hv with rfl | hkv
    · rcases h w hw with rfl | hkw
      · simp [precedes, place]
      · simp [precedes_null_left, hthere w hkw, place, hnull, WithBot.bot_lt_coe]
    · rcases h w hw with rfl | hkw
      · simp [precedes_null_right, place, hnull]
      · obtain ⟨o, ho, hlt⟩ := hstanding v w hkv hkw
        rw [precedes_of_not_null (hthere v hkv) (hthere w hkw), ho]
        simp only [place, hthere v hkv, hthere w hkw, Bool.false_eq_true, if_false,
          WithBot.coe_lt_coe, ← hlt]
        cases o <;> rfl

/-! ## Numbers, texts and dates -/

/-- The value is a number that has a place on the extended line. -/
def IsPlacedNumber (v : Value) : Prop := ∃ x p, v.number? = some x ∧ x.place? = some p

/-- The value is a text. -/
def IsText (v : Value) : Prop := ∃ s, v = .text s

/-- The value is a date that knows its offset, or one that does not. -/
def IsDate (zoned : Bool) (v : Value) : Prop := ∃ d, v = .date d ∧ d.offset.isSome = zoned

/-- The rank of a number among all numbers. -/
def numberRank (v : Value) : WithBot (WithTop ℤ) :=
  ((v.number?.bind Number.place?).map placeRank).getD ⊥

/-- The rank of a text among all texts. -/
def textRank : Value → String
  | .text s => s
  | _ => ""

/-- The rank of a date among all dates. -/
def dateRank : Value → Int
  | .date d => d.instant
  | _ => 0

theorem numberRank_eq {v : Value} {x : Number} {p : Place} (hx : v.number? = some x)
    (hp : x.place? = some p) : numberRank v = placeRank p := by
  simp [numberRank, hx, hp]

/-- Numbers that have a place can be put in order, also with nothing among them. -/
theorem orderable_numbers {values : List Value}
    (h : ∀ v ∈ values, v = .null ∨ IsPlacedNumber v) : Orderable values := by
  refine orderable_of_rank numberRank ?_ ?_ ?_ h
  · rintro v ⟨x, p, hx, -⟩
    cases v <;> simp [Value.number?, Value.isNull] at hx ⊢
  · rintro v ⟨x, p, hx, hp⟩
    rw [agree_of_number hx hx, compare?_of_place hp hp, place_compare_self]
    rfl
  · rintro v w ⟨x, p, hx, hp⟩ ⟨y, q, hy, hq⟩
    refine ⟨p.compare q, standing_of_number hx hy (compare?_of_place hp hq), ?_⟩
    rw [numberRank_eq hx hp, numberRank_eq hy hq]
    exact place_compare_eq_lt p q

/-- Texts can be put in order, also with nothing among them. -/
theorem orderable_texts {values : List Value} (h : ∀ v ∈ values, v = .null ∨ IsText v) :
    Orderable values := by
  refine orderable_of_rank textRank ?_ ?_ ?_ h
  · rintro v ⟨s, rfl⟩
    rfl
  · rintro v ⟨s, rfl⟩
    simp [Value.agree]
  · rintro v w ⟨s, rfl⟩ ⟨t, rfl⟩
    exact ⟨_, Value.standing_text s t, compare_lt_iff_lt⟩

/-- Dates of which all know their offset, or none does, stand to each other as their
instants do. -/
theorem standing_of_isDate {zoned : Bool} {v w : Value} (hv : IsDate zoned v)
    (hw : IsDate zoned w) :
    v.standing w = .ofOrdering (compare (dateRank v) (dateRank w)) := by
  obtain ⟨d, rfl, hd⟩ := hv
  obtain ⟨e, rfl, he⟩ := hw
  have hboth : d.isComparable e = true := by
    rw [Calendar.DateTime.isComparable, hd, he, beq_self_eq_true]
  rw [Value.standing, hboth, if_pos rfl]
  rfl

/-- Dates of which all know their offset, or none does, can be put in order, also with
nothing among them. -/
theorem orderable_dates {zoned : Bool} {values : List Value}
    (h : ∀ v ∈ values, v = .null ∨ IsDate zoned v) : Orderable values := by
  refine orderable_of_rank dateRank ?_ ?_ ?_ h
  · rintro v ⟨d, rfl, -⟩
    rfl
  · rintro v ⟨d, rfl, -⟩
    rw [Value.agree, d.agree_self]
  · intro v w hv hw
    exact ⟨_, standing_of_isDate hv hw, compare_lt_iff_lt⟩

/-! ## Sorting by one key -/

/-- The values of a field of some rows. -/
def fieldValues (field : String) (rows : List Value) : List Value :=
  rows.map fun row => row.property field

/-- Rows in another order have the same values of a field. -/
theorem fieldValues_subset {field : String} {rows others : List Value}
    (h : others ⊆ rows) : fieldValues field others ⊆ fieldValues field rows :=
  List.map_subset _ h

/-- Rows whose key values can be compared are sorted. -/
theorem sortBy_ok {key : SortKey} {rows : List Value}
    (h : Comparable (fieldValues key.field rows)) : ∃ sorted, sortBy key rows = .ok sorted := by
  have hclash : anyClash (rows.map fun row => row.property key.field) = false :=
    anyClash_eq_false h
  simp only [sortBy, hclash, Bool.false_eq_true, if_false]
  split
  · exact ⟨_, rfl⟩
  · exact ⟨_, rfl⟩

/-- Rows whose key values can be put in order are sorted by merging. -/
theorem sortBy_eq {key : SortKey} {rows : List Value}
    (h : Orderable (fieldValues key.field rows)) :
    sortBy key rows = .ok (rows.mergeSort (SortKey.allows key)) := by
  have hclash : anyClash (rows.map fun row => row.property key.field) = false :=
    anyClash_eq_false h.comparable
  have hplaced : (rows.map fun row => row.property key.field).all isPlaced = true :=
    List.all_eq_true.2 h.placed
  simp only [sortBy, hclash, Bool.false_eq_true, if_false, hplaced, if_true]

/-- A key whose values can be put in order puts the rows in order. -/
theorem allows_isOrderOn {key : SortKey} {rows : List Value}
    (h : Orderable (fieldValues key.field rows)) : IsOrderOn (SortKey.allows key) rows := by
  obtain ⟨ι, order, rank, hrank⟩ := h.ranked
  have hcompare : ∀ a ∈ rows, ∀ b ∈ rows, precedes (a.property key.field) (b.property key.field) =
      decide (rank (a.property key.field) < rank (b.property key.field)) := by
    intro a ha b hb
    exact hrank _ (List.mem_map_of_mem ha) _ (List.mem_map_of_mem hb)
  constructor
  · intro a ha b hb c hc hab hbc
    cases hd : key.direction with
    | asc =>
        simp only [SortKey.allows, hd, hcompare b hb a ha, hcompare c hc b hb,
          hcompare c hc a ha, Bool.not_eq_true', decide_eq_false_iff_not, not_lt] at hab hbc ⊢
        exact hab.trans hbc
    | desc =>
        simp only [SortKey.allows, hd, hcompare a ha b hb, hcompare b hb c hc,
          hcompare a ha c hc, Bool.not_eq_true', decide_eq_false_iff_not, not_lt] at hab hbc ⊢
        exact hbc.trans hab
  · intro a ha b hb
    cases hd : key.direction with
    | asc =>
        simp only [SortKey.allows, hd, hcompare b hb a ha, hcompare a ha b hb,
          Bool.not_eq_true', decide_eq_false_iff_not, not_lt]
        exact le_total _ _
    | desc =>
        simp only [SortKey.allows, hd, hcompare b hb a ha, hcompare a ha b hb,
          Bool.not_eq_true', decide_eq_false_iff_not, not_lt]
        exact le_total _ _

/-! ## Sorting by several keys -/

/-- A row may stand before another one: the first key that tells them apart
decides, and when no key does, the given relation. -/
def standsBefore (tie : Value → Value → Prop) : List SortKey → Value → Value → Prop
  | [], a, b => tie a b
  | key :: keys, a, b =>
      SortKey.allows key a b = true ∧
        (SortKey.allows key b a = true → standsBefore tie keys a b)

section

variable {keys : List SortKey} {rows : List Value}

/-- Of two rows whose key values can be put in order one may stand before the other. -/
theorem standsBefore_total (h : ∀ key ∈ keys, Orderable (fieldValues key.field rows))
    {a b : Value} (ha : a ∈ rows) (hb : b ∈ rows) :
    standsBefore (fun _ _ => True) keys a b ∨ standsBefore (fun _ _ => True) keys b a := by
  induction keys with
  | nil => exact Or.inl trivial
  | cons key keys ih =>
      have horder := allows_isOrderOn (h key (by simp))
      have hrest := ih fun other hother => h other (by simp [hother])
      by_cases hab : SortKey.allows key a b = true
      · by_cases hba : SortKey.allows key b a = true
        · rcases hrest with hfirst | hfirst
          · exact Or.inl ⟨hab, fun _ => hfirst⟩
          · exact Or.inr ⟨hba, fun _ => hfirst⟩
        · exact Or.inl ⟨hab, fun hback => absurd hback hba⟩
      · rcases horder.total a ha b hb with hforth | hba
        · exact absurd hforth hab
        · exact Or.inr ⟨hba, fun hback => absurd hback hab⟩

/-- A row that may stand before another one may stand before all that the other one may
stand before. -/
theorem standsBefore_trans (h : ∀ key ∈ keys, Orderable (fieldValues key.field rows))
    {a b c : Value} (ha : a ∈ rows) (hb : b ∈ rows) (hc : c ∈ rows)
    (hab : standsBefore (fun _ _ => True) keys a b)
    (hbc : standsBefore (fun _ _ => True) keys b c) :
    standsBefore (fun _ _ => True) keys a c := by
  induction keys with
  | nil => trivial
  | cons key keys ih =>
      have horder := allows_isOrderOn (h key (by simp))
      refine ⟨horder.trans a ha b hb c hc hab.1 hbc.1, ?_⟩
      intro hca
      -- Both steps are ties of the first key, so the other keys decide them.
      have hba := horder.trans b hb c hc a ha hbc.1 hca
      have hcb := horder.trans c hc a ha b hb hca hab.1
      exact ih (fun other hother => h other (by simp [hother])) (hab.2 hba) (hbc.2 hcb)

/-- Rows that may stand before each other are told apart by no key. -/
theorem allows_of_standsBefore {tie : Value → Value → Prop} {a b : Value}
    (hab : standsBefore tie keys a b) (hba : standsBefore tie keys b a) :
    ∀ key ∈ keys, SortKey.allows key a b = true ∧ SortKey.allows key b a = true := by
  induction keys with
  | nil => exact List.forall_mem_nil _
  | cons key keys ih =>
      exact List.forall_mem_cons.2
        ⟨⟨hab.1, hba.1⟩, ih (hab.2 hba.1) (hba.2 hab.1)⟩

end

/-- Rows are sorted when the values of every key can be compared. -/
theorem sortRows_ok {keys : List SortKey} {rows : List Value}
    (h : ∀ key ∈ keys, Comparable (fieldValues key.field rows)) :
    ∃ sorted, sortRows keys rows = .ok sorted := by
  induction keys with
  | nil => exact ⟨rows, rfl⟩
  | cons key keys ih =>
      obtain ⟨between, hbetween⟩ := ih fun other hother => h other (by simp [hother])
      have hperm := sortRows_perm hbetween
      obtain ⟨sorted, hsorted⟩ := sortBy_ok
        ((h key (by simp)).mono (fieldValues_subset hperm.subset))
      exact ⟨sorted, by simp only [sortRows, hbetween, hsorted]⟩

/-- Sorted rows stand in the order of the keys, and rows that no key tells apart
stand as they did before. -/
theorem sortRows_standsBefore {keys : List SortKey} {rows sorted : List Value}
    (h : ∀ key ∈ keys, Orderable (fieldValues key.field rows))
    {tie : Value → Value → Prop} (htie : rows.Pairwise tie)
    (hsorted : sortRows keys rows = .ok sorted) :
    sorted.Pairwise (standsBefore tie keys) := by
  -- The least significant key is applied first, so the passes build up the tie of the next key.
  induction keys generalizing sorted with
  | nil =>
      simp only [sortRows, Except.ok.injEq] at hsorted
      exact hsorted ▸ htie
  | cons key keys ih =>
      simp only [sortRows] at hsorted
      split at hsorted
      · rename_i between hbetween
        have hpass := ih (fun other hother => h other (by simp [hother])) hbetween
        have horder : Orderable (fieldValues key.field between) :=
          (h key (by simp)).mono (fieldValues_subset (sortRows_perm hbetween).subset)
        rw [sortBy_eq horder, Except.ok.injEq] at hsorted
        subst hsorted
        exact (allows_isOrderOn horder).mergeSort_ties hpass
      · simp at hsorted

end Collection
end PagedQuery
