/-!
# Finding text in text

Main results:

- Theorem `occurs_iff`: a text occurs in another one exactly when that one
  continues it on both sides.
- Theorem `before_append_after`: cutting at a mark loses only the mark.
-/

namespace PagedQuery
namespace Text

/-- The first text occurs in the second one as a whole. -/
def occurs (needle : List Char) : List Char → Bool
  | [] => needle.isEmpty
  | c :: cs => needle.isPrefixOf (c :: cs) || occurs needle cs

/-- What stands before the first mark, and what stands behind it. -/
def cutAt (mark : Char) : List Char → List Char × List Char
  | [] => ([], [])
  | c :: cs =>
      if c == mark then ([], cs)
      else
        let (before, after) := cutAt mark cs
        (c :: before, after)

theorem occurs_iff (needle hay : List Char) :
    occurs needle hay = true ↔ ∃ before after, hay = before ++ needle ++ after := by
  induction hay with
  | nil =>
      constructor
      · intro h
        have h : needle = [] := by simpa [occurs] using h
        exact ⟨[], [], by simp [h]⟩
      · rintro ⟨before, after, h⟩
        have h := congrArg List.length h
        simp only [List.length_nil, List.length_append] at h
        have hn : needle.length = 0 := by omega
        simp [occurs, List.length_eq_zero_iff.1 hn]
  | cons c cs ih =>
      simp only [occurs, Bool.or_eq_true, ih, List.isPrefixOf_iff_prefix]
      constructor
      · rintro (⟨after, h⟩ | ⟨before, after, h⟩)
        · exact ⟨[], after, by simp [h]⟩
        · exact ⟨c :: before, after, by simp [h]⟩
      · rintro ⟨before, after, h⟩
        cases before with
        | nil => exact Or.inl ⟨after, by simpa using h.symm⟩
        | cons b before =>
            simp only [List.cons_append, List.cons.injEq] at h
            exact Or.inr ⟨before, after, h.2⟩

theorem before_append_after {mark : Char} {cs : List Char} (h : mark ∈ cs) :
    (cutAt mark cs).1 ++ mark :: (cutAt mark cs).2 = cs := by
  induction cs with
  | nil => simp at h
  | cons c cs ih =>
      unfold cutAt
      by_cases hc : c = mark
      · simp [hc]
      · have hm : mark ∈ cs := by
          rcases List.mem_cons.1 h with e | h
          · exact absurd e.symm hc
          · exact h
        simp [hc, ih hm]

end Text
end PagedQuery
