import Mathlib.Data.List.TakeWhile
import PagedQuery.Text.Blank

/-!
# What stripping leaves

Stripping takes the characters of a class off both ends of a text.  What is left neither starts
nor ends with a character of the class, and this says which part of the text it is.

Main results:

- Theorem `stripBoth_eq_iff`: what is left of a text by stripping.
-/

namespace PagedQuery
namespace Text

variable {drop : Char → Bool} {cs : List Char}

/-- The text neither starts nor ends with a character of the class. -/
structure IsBare (drop : Char → Bool) (cs : List Char) : Prop where
  head : ∀ c ∈ cs.head?, drop c = false
  last : ∀ c ∈ cs.getLast?, drop c = false

/-- Nothing is dropped from the front of a text that starts with a kept character. -/
theorem dropWhile_of_head (h : ∀ c ∈ cs.head?, drop c = false) : cs.dropWhile drop = cs := by
  cases cs with
  | nil => rfl
  | cons c cs => exact dropWhile_eq_self_of_head (h c rfl)

/-- A part of a text whose characters are of a class ends where the class ends. -/
theorem span_append {p : Char → Bool} {part rest : List Char} (hpart : ∀ c ∈ part, p c = true)
    (hrest : ∀ c ∈ rest.head?, p c = false) :
    (part ++ rest).takeWhile p = part ∧ (part ++ rest).dropWhile p = rest := by
  rw [List.takeWhile_append_of_pos hpart, List.dropWhile_append_of_pos hpart]
  cases rest with
  | nil => simp
  | cons c rest =>
      have hc : ¬p c = true := Bool.eq_false_iff.1 (hrest c rfl)
      rw [List.takeWhile_cons_of_neg hc, List.dropWhile_cons_of_neg hc, List.append_nil]
      exact ⟨rfl, rfl⟩

/-- What is left when the front of a text has been dropped starts with a kept character. -/
theorem head_of_dropWhile (drop : Char → Bool) (cs : List Char) :
    ∀ c ∈ (cs.dropWhile drop).head?, drop c = false := by
  intro c hc
  have hkept := List.head?_dropWhile_not drop cs
  rw [Option.mem_def.1 hc] at hkept
  exact hkept

/-- What is left of a text by stripping is the part between two ends of the class that neither
starts nor ends with a character of the class. -/
theorem stripBoth_eq_iff {core : List Char} :
    stripBoth drop cs = core ↔ ∃ front back, cs = front ++ core ++ back ∧
      (∀ c ∈ front, drop c = true) ∧ (∀ c ∈ back, drop c = true) ∧ IsBare drop core := by
  constructor
  · rintro rfl
    have hfront := List.takeWhile_append_dropWhile (p := drop) (l := cs)
    have hback := List.takeWhile_append_dropWhile (p := drop) (l := (cs.dropWhile drop).reverse)
    have hsplit : cs.dropWhile drop = stripBoth drop cs ++
        ((cs.dropWhile drop).reverse.takeWhile drop).reverse := by
      rw [stripBoth, ← List.reverse_append, hback, List.reverse_reverse]
    refine ⟨cs.takeWhile drop, ((cs.dropWhile drop).reverse.takeWhile drop).reverse, ?_,
      fun c hc => List.mem_takeWhile_imp hc,
      fun c hc => List.mem_takeWhile_imp (List.mem_reverse.1 hc), ?_, ?_⟩
    · rw [List.append_assoc, ← hsplit, hfront]
    · intro c hc
      apply head_of_dropWhile drop cs
      rw [hsplit, List.head?_append, Option.mem_def.1 hc]
      rfl
    · intro c hc
      rw [stripBoth, List.getLast?_reverse] at hc
      exact head_of_dropWhile drop _ c hc
  · rintro ⟨front, back, rfl, hfront, hback, hbare⟩
    rw [stripBoth, List.append_assoc, List.dropWhile_append_of_pos hfront]
    cases core with
    | nil =>
        rw [List.nil_append, List.dropWhile_eq_nil_iff.2 hback]
        rfl
    | cons c core =>
        rw [List.cons_append, dropWhile_eq_self_of_head (hbare.head c rfl), ← List.cons_append,
          List.reverse_append, List.dropWhile_append_of_pos fun c hc =>
            hback c (List.mem_reverse.1 hc), dropWhile_of_head, List.reverse_reverse]
        intro d hd
        rw [List.head?_reverse] at hd
        exact hbare.last d hd

/-- Nothing is removed from a text without characters of the class. -/
theorem stripBoth_of_none (h : ∀ c ∈ cs, drop c = false) : stripBoth drop cs = cs := by
  refine stripBoth_eq_iff.2 ⟨[], [], by simp, List.forall_mem_nil _, List.forall_mem_nil _, ?_, ?_⟩
  · exact fun c hc => h c (List.mem_of_mem_head? hc)
  · exact fun c hc => h c (List.mem_of_mem_getLast? hc)

/-- Nothing is left of a text exactly when all of its characters are of the class. -/
theorem stripBoth_eq_nil_iff : stripBoth drop cs = [] ↔ ∀ c ∈ cs, drop c = true := by
  constructor
  · intro h
    obtain ⟨front, back, rfl, hfront, hback, -⟩ := stripBoth_eq_iff.1 h
    rw [List.append_nil]
    exact fun c hc => (List.mem_append.1 hc).elim (hfront c) (hback c)
  · intro h
    refine stripBoth_eq_iff.2 ⟨cs, [], by simp, h, List.forall_mem_nil _, ?_, ?_⟩
    · rintro _ ⟨⟩
    · rintro _ ⟨⟩

end Text
end PagedQuery
