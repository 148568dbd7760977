import PagedQuery.Collection.Store
import PagedQuery.Proofs.ValueEquality

/-!
# Rows with an identifier each

When each row has an identifier of its own, at most one row answers to an identifier,
whatever value that is equal to it is asked for.  Keeping and removing rows changes what
one identifier stands for, and the rows have identifiers of their own again.

Main results:

- Theorem `rowUnder_middle`: what the rows have under an identifier, seen from one of
  them.
- Theorem `IsKeyed.append`, Theorem `IsKeyed.replace` and Theorem `IsKeyed.erase`: rows
  that are kept and removed leave identifiers of their own.
-/

namespace PagedQuery
namespace Collection

variable {name : String} {k : Value} {rows before after : List Value} {row object : Value}

/-- Each row has an identifier, and no other row has an equal one. -/
structure IsKeyed (name : String) (rows : List Value) : Prop where
  present : ∀ row ∈ rows, (row.property name).isNull = false
  regular : ∀ row ∈ rows, (row.property name).IsRegular
  distinct : rows.Pairwise fun a b => (a.property name).agree (b.property name) = false

/-- The row that has an identifier. -/
def rowUnder (name : String) (k : Value) (rows : List Value) : Option Value :=
  rows.find? fun row => (row.property name).agree k

/-- No row has an identifier that is not found. -/
theorem rowUnder_eq_none :
    rowUnder name k rows = none ↔ ∀ row ∈ rows, (row.property name).agree k = false := by
  simp [rowUnder]

/-- An identifier that no row has is not found as an equal value either. -/
theorem rowUnder_none_congr {j : Value} (hreg : j.IsRegular)
    (hnone : rowUnder name j rows = none) (h : j.agree k = true) :
    rowUnder name k rows = none := by
  rw [rowUnder_eq_none] at hnone ⊢
  intro row hrow
  rw [← Value.agree_congr_right hreg h]
  exact hnone row hrow

/-- The row with an identifier stands behind rows that do not have it. -/
theorem rowUnder_eq_some (h : rowUnder name k rows = some row) :
    ∃ before after, rows = before ++ row :: after ∧
      (row.property name).agree k = true ∧
        ∀ other ∈ before, (other.property name).agree k = false := by
  obtain ⟨hrow, before, after, rfl, hbefore⟩ := List.find?_eq_some_iff_append.1 h
  exact ⟨before, after, rfl, hrow, by simpa using hbefore⟩

/-- The position of a row behind rows that do not have its identifier. -/
theorem position?_middle (hbefore : ∀ other ∈ before, (other.property name).agree k = false)
    (hrow : (row.property name).agree k = true) :
    position? name k (before ++ row :: after) = some before.length := by
  induction before with
  | nil => simp [position?, List.findIdx?_cons, hrow]
  | cons other before ih =>
      rw [List.forall_mem_cons] at hbefore
      have hrest := ih hbefore.2
      rw [position?] at hrest ⊢
      rw [List.cons_append, List.findIdx?_cons, hbefore.1, hrest]
      rfl

/-- No row has a position when none has the identifier. -/
theorem position?_eq_none (h : rowUnder name k rows = none) : position? name k rows = none := by
  rw [position?, List.findIdx?_eq_none_iff]
  exact rowUnder_eq_none.1 h

/-- An object whose identifier no row has is kept behind all rows. -/
theorem keep_new (h : rowUnder name (object.property name) rows = none) :
    keep name object rows = rows ++ [object] := by
  rw [keep, position?_eq_none h]

/-- An object is kept in the place of the first row that has its identifier. -/
theorem keep_old
    (hbefore : ∀ other ∈ before, (other.property name).agree (object.property name) = false)
    (hrow : (row.property name).agree (object.property name) = true) :
    keep name object (before ++ row :: after) = before ++ object :: after := by
  rw [keep, position?_middle hbefore hrow]
  simp

/-! ## What the rows have under an identifier -/

/-- No other row has an identifier that is equal to that of a row. -/
theorem IsKeyed.others (h : IsKeyed name (before ++ row :: after))
    (hrow : (row.property name).agree k = true) :
    ∀ other ∈ before ++ after, (other.property name).agree k = false := by
  have hdistinct := h.distinct
  rw [List.pairwise_append, List.pairwise_cons] at hdistinct
  have hreg : ∀ other ∈ before ++ row :: after, (other.property name).IsRegular := h.regular
  intro other hother
  rcases List.mem_append.1 hother with hother | hother
  · have hfalse := hdistinct.2.2 other hother row (by simp)
    rwa [Value.agree_congr_right (hreg row (by simp)) hrow] at hfalse
  · have hfalse := hdistinct.2.1.1 other hother
    rw [← Bool.not_eq_true] at hfalse ⊢
    intro hagree
    apply hfalse
    exact Value.agree_trans hrow (Value.agree_symm (hreg other (by simp [hother])) hagree)

/-- What the rows have under an identifier, seen from one of them: that row, when it has
the identifier, and else what the other rows have. -/
theorem rowUnder_middle (h : IsKeyed name (before ++ row :: after)) (k : Value) :
    rowUnder name k (before ++ row :: after) =
      if (row.property name).agree k then some row else rowUnder name k (before ++ after) := by
  split
  · rename_i hrow
    have hbefore : rowUnder name k before = none :=
      rowUnder_eq_none.2 fun other hother => h.others hrow other (by simp [hother])
    rw [rowUnder] at hbefore ⊢
    rw [List.find?_append, hbefore, List.find?_cons, hrow]
    rfl
  · rename_i hrow
    simp [rowUnder, List.find?_append, hrow]

/-- Without the row that has an identifier, nothing is under it, and the same as before
under all others. -/
theorem rowUnder_erase {j : Value} (h : IsKeyed name (before ++ row :: after))
    (hrow : (row.property name).agree j = true) (k : Value) :
    rowUnder name k (before ++ after) =
      if j.agree k then none else rowUnder name k (before ++ row :: after) := by
  rw [← Value.agree_congr_left (h.regular row (by simp)) hrow, rowUnder_middle h]
  split
  · rename_i hk
    exact rowUnder_eq_none.2 (h.others hk)
  · rfl

/-- Where no row has an identifier, nothing is under it. -/
theorem rowUnder_absent {j : Value} (hreg : j.IsRegular)
    (hnone : rowUnder name j rows = none) (k : Value) :
    rowUnder name k rows = if j.agree k then none else rowUnder name k rows := by
  split
  · rename_i hk
    exact rowUnder_none_congr hreg hnone hk
  · rfl

/-- A row whose identifier no other row has stands behind the others under it. -/
theorem rowUnder_append (hreg : (object.property name).IsRegular)
    (hnew : rowUnder name (object.property name) rows = none) (k : Value) :
    rowUnder name k (rows ++ [object]) =
      if (object.property name).agree k then some object else rowUnder name k rows := by
  split
  · rename_i hobject
    have hrows := rowUnder_none_congr hreg hnew hobject
    rw [rowUnder] at hrows ⊢
    rw [List.find?_append, hrows, List.find?_cons, hobject]
    rfl
  · rename_i hobject
    simp [rowUnder, List.find?_append, hobject]

/-! ## Rows that are kept and removed -/

/-- Some of the rows have identifiers of their own as all rows do. -/
theorem IsKeyed.sublist {others : List Value} (h : IsKeyed name rows)
    (hsub : others.Sublist rows) : IsKeyed name others where
  present row hrow := h.present row (hsub.subset hrow)
  regular row hrow := h.regular row (hsub.subset hrow)
  distinct := h.distinct.sublist hsub

/-- Without one of them, the rows have identifiers of their own. -/
theorem IsKeyed.erase (h : IsKeyed name (before ++ row :: after)) :
    IsKeyed name (before ++ after) :=
  h.sublist ((List.sublist_cons_self row after).append_left before)

/-- With a further row whose identifier is new, the rows have identifiers of their own. -/
theorem IsKeyed.append (h : IsKeyed name rows)
    (hpresent : (object.property name).isNull = false)
    (hreg : (object.property name).IsRegular)
    (hnew : rowUnder name (object.property name) rows = none) :
    IsKeyed name (rows ++ [object]) where
  present := List.forall_mem_append.2 ⟨h.present, by simpa using hpresent⟩
  regular := List.forall_mem_append.2 ⟨h.regular, by simpa using hreg⟩
  distinct := by
    rw [List.pairwise_append]
    refine ⟨h.distinct, List.pairwise_singleton _ _, ?_⟩
    simpa using rowUnder_eq_none.1 hnew

/-- With a row in the place of one that had its identifier, the rows have identifiers of
their own. -/
theorem IsKeyed.replace (h : IsKeyed name (before ++ row :: after))
    (hrow : (row.property name).agree (object.property name) = true)
    (hpresent : (object.property name).isNull = false)
    (hreg : (object.property name).IsRegular) :
    IsKeyed name (before ++ object :: after) := by
  have hothers := h.others hrow
  have hrest := h.erase
  constructor
  · have hpresents := List.forall_mem_append.1 hrest.present
    exact List.forall_mem_append.2
      ⟨hpresents.1, List.forall_mem_cons.2 ⟨hpresent, hpresents.2⟩⟩
  · have hregs := List.forall_mem_append.1 hrest.regular
    exact List.forall_mem_append.2 ⟨hregs.1, List.forall_mem_cons.2 ⟨hreg, hregs.2⟩⟩
  · have hdistinct := List.pairwise_append.1 hrest.distinct
    refine List.pairwise_append.2 ⟨hdistinct.1, List.pairwise_cons.2 ⟨?_, hdistinct.2.1⟩, ?_⟩
    · intro other hother
      have hfalse := hothers other (by simp [hother])
      rw [← Bool.not_eq_true] at hfalse ⊢
      exact fun hagree => hfalse (Value.agree_symm hreg hagree)
    · intro other hother third hthird
      rcases List.mem_cons.1 hthird with rfl | hthird
      · exact hothers other (by simp [hother])
      · exact hdistinct.2.2 other hother third hthird

end Collection
end PagedQuery
