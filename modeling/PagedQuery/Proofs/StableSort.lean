import PagedQuery.Collection.Sorting

/-!
# Stable sorting of the members of a list

A relation need only be an order among the items that are sorted, not among all
values of their type.  Sorting then puts every item in front of those that it
may not follow, and items that may stand either way keep the order in which they
came.

Main results:

- Theorem `IsOrderOn.pairwise_mergeSort`: a sorted list is in order.
- Theorem `IsOrderOn.mergeSort_ties`: whatever held from front to back before
  sorting still holds among items that may stand either way.
-/

namespace PagedQuery
namespace Collection

variable {α : Type}

/-- The relation orders the items of a list: any two are related, and related
items of related ones are related. -/
structure IsOrderOn (le : α → α → Bool) (items : List α) : Prop where
  trans : ∀ a ∈ items, ∀ b ∈ items, ∀ c ∈ items, le a b = true → le b c = true → le a c = true
  total : ∀ a ∈ items, ∀ b ∈ items, le a b = true ∨ le b a = true

namespace IsOrderOn

variable {le : α → α → Bool} {items : List α}

/-- Sorting puts the items in order. -/
theorem pairwise_mergeSort (h : IsOrderOn le items) :
    (items.mergeSort le).Pairwise fun a b => le a b = true := by
  -- The order laws hold on the members only, so the members are sorted as a type of their own.
  let among (a b : {x // x ∈ items}) : Bool := le a.1 b.1
  have hsorted : (items.attach.mergeSort among).Pairwise fun a b => among a b = true := by
    apply List.pairwise_mergeSort
    · intro a b c hab hbc
      exact h.trans a.1 a.2 b.1 b.2 c.1 c.2 hab hbc
    · intro a b
      rw [Bool.or_eq_true]
      exact h.total a.1 a.2 b.1 b.2
  have hmap : (items.attach.mergeSort among).map Subtype.val = items.mergeSort le := by
    rw [List.map_mergeSort (s := le) (fun a _ b _ => rfl), List.attach_map_subtype_val]
  rw [← hmap, List.pairwise_map]
  exact hsorted

/-- Items that are marked by their positions are ordered as well when positions
decide between those that may stand either way. -/
theorem zipIdx (h : IsOrderOn le items) : IsOrderOn (List.zipIdxLE le) items.zipIdx := by
  have hmem : ∀ p ∈ items.zipIdx, p.1 ∈ items := fun p hp => List.fst_mem_of_mem_zipIdx hp
  constructor
  · intro a ha b hb c hc hab hbc
    have htrans := h.trans a.1 (hmem a ha) b.1 (hmem b hb) c.1 (hmem c hc)
    have hback := h.trans c.1 (hmem c hc) a.1 (hmem a ha) b.1 (hmem b hb)
    have hback' := h.trans b.1 (hmem b hb) c.1 (hmem c hc) a.1 (hmem a ha)
    simp only [List.zipIdxLE] at hab hbc ⊢
    grind
  · intro a ha b hb
    have htotal := h.total a.1 (hmem a ha) b.1 (hmem b hb)
    simp only [List.zipIdxLE]
    grind

/-- Among items that may stand either way, sorting keeps what held from front to
back. -/
theorem mergeSort_ties (h : IsOrderOn le items) {tie : α → α → Prop}
    (htie : items.Pairwise tie) :
    (items.mergeSort le).Pairwise fun a b => le a b = true ∧ (le b a = true → tie a b) := by
  have hperm := List.mergeSort_perm items.zipIdx (List.zipIdxLE le)
  have hsorted := h.zipIdx.pairwise_mergeSort
  have hapart : (items.zipIdx.mergeSort (List.zipIdxLE le)).Pairwise fun p q => p.2 ≠ q.2 := by
    rw [hperm.pairwise_iff (fun hpq => Ne.symm hpq), ← List.pairwise_map (R := (· ≠ ·)),
      List.zipIdx_map_snd]
    exact List.nodup_range'
  rw [← List.mergeSort_zipIdx, List.pairwise_map]
  refine (hsorted.and hapart).imp_of_mem ?_
  rintro ⟨a, i⟩ ⟨b, j⟩ hp hq ⟨hle, hne⟩
  have ha := List.mem_zipIdx' (hperm.mem_iff.1 hp)
  have hb := List.mem_zipIdx' (hperm.mem_iff.1 hq)
  simp only [List.zipIdxLE, ne_eq] at hle hne ⊢
  constructor
  · grind
  · intro hback
    have hij : i < j := by grind
    rw [ha.2, hb.2]
    exact List.pairwise_iff_getElem.1 htie i j ha.1 hb.1 hij

end IsOrderOn

end Collection
end PagedQuery
