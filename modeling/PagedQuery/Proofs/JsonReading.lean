import Mathlib.Data.List.Forall2
import PagedQuery.Text.Fields
import PagedQuery.Value.JsonReader

/-!
# Reading JSON texts

The elements of an array and the members of an object are read one by one, each up to the comma
or the closing mark behind it.  So they are read as what they were written for, as long as each
of them is.

Main results:

- Theorem `readEnclosed_join`: elements that are written between two marks are read each.
-/

namespace PagedQuery
namespace Json

/-! ## Elements between marks -/

section

variable {α : Type} (readOne : List Char → Option (α × List Char)) (close : Char)

/-- An element is read from its text where a comma or the closing mark stands behind it. -/
structure ReadsBack (text : List Char) (element : α) : Prop where
  head : ∃ c cs, text = c :: cs ∧ isGap c = false ∧ c ≠ close
  reads : ∀ mark rest, mark = ',' ∨ mark = close →
    readOne (text ++ mark :: rest) = some (element, mark :: rest)

variable {readOne close}

/-- There are at most as many texts as they have characters. -/
theorem length_le_length_join {texts : List (List Char)} {elements : List α}
    (h : List.Forall₂ (ReadsBack readOne close) texts elements) :
    texts.length ≤ (Text.join [',', ' '] texts).length := by
  induction h with
  | nil => exact Nat.le_refl 0
  | @cons text element texts elements hfirst _ ih =>
      obtain ⟨c, cs, rfl, -, -⟩ := hfirst.head
      cases texts with
      | nil => simp [Text.join]
      | cons next texts =>
          simp only [Text.join, List.length_append, List.length_cons] at ih ⊢
          omega

/-- A character that is no blank is not left out. -/
theorem skipGap_cons {c : Char} (h : isGap c = false) (cs : List Char) :
    skipGap (c :: cs) = c :: cs :=
  List.dropWhile_cons_of_neg (Bool.eq_false_iff.1 h)

/-- A space in front of elements is left out when it is in front of one. -/
theorem readElements_space (hspace : ∀ cs, readOne (' ' :: cs) = readOne cs) (bound : Nat)
    (cs : List Char) :
    readElements readOne close bound (' ' :: cs) = readElements readOne close bound cs := by
  cases bound with
  | zero => rfl
  | succ bound => rw [readElements, readElements, hspace]

/-- Elements that are written with a comma and a space in between are read each. -/
theorem readElements_join (hspace : ∀ cs, readOne (' ' :: cs) = readOne cs) (hclose : close ≠ ',')
    (hmark : isGap close = false) {texts : List (List Char)} {elements : List α}
    (h : List.Forall₂ (ReadsBack readOne close) texts elements) (hsome : texts ≠ [])
    {bound : Nat} (hbound : texts.length ≤ bound) (rest : List Char) :
    readElements readOne close bound (Text.join [',', ' '] texts ++ close :: rest) =
      some (elements, rest) := by
  induction h generalizing bound with
  | nil => exact absurd rfl hsome
  | @cons text element texts elements hfirst hfollowing ih =>
      obtain ⟨bound, rfl⟩ : ∃ n, bound = n + 1 :=
        Nat.exists_eq_succ_of_ne_zero (Nat.ne_zero_of_lt hbound)
      cases hfollowing with
      | nil =>
          have hread := hfirst.reads close rest (.inr rfl)
          rw [Text.join, readElements, hread]
          simp only [skipGap_cons hmark, beq_self_eq_true, if_true]
      | @cons next _ others _ _ _ =>
          have hread := hfirst.reads ',' (' ' :: (Text.join [',', ' '] (next :: others) ++
            close :: rest)) (.inl rfl)
          have hcomma : (',' == close) = false := beq_false_of_ne hclose.symm
          have hothers := ih (List.cons_ne_nil _ _) (Nat.le_of_succ_le_succ hbound)
          have hjoin : Text.join [',', ' '] (text :: next :: others) ++ close :: rest =
              text ++ ',' :: ' ' :: (Text.join [',', ' '] (next :: others) ++ close :: rest) := by
            simp [Text.join]
          rw [hjoin, readElements, hread]
          simp only [skipGap_cons (c := ',') rfl, hcomma, beq_self_eq_true, if_true,
            Bool.false_eq_true, if_false, readElements_space hspace, hothers, made, Option.map_some]

/-- Elements that are written between two marks are read each. -/
theorem readEnclosed_join (hspace : ∀ cs, readOne (' ' :: cs) = readOne cs) (hclose : close ≠ ',')
    (hmark : isGap close = false) {texts : List (List Char)} {elements : List α}
    (h : List.Forall₂ (ReadsBack readOne close) texts elements) (rest : List Char) :
    readEnclosed readOne close (Text.join [',', ' '] texts ++ close :: rest) =
      some (elements, rest) := by
  cases h with
  | nil =>
      rw [Text.join, List.nil_append, readEnclosed, skipGap_cons hmark]
      simp only [beq_self_eq_true, if_true]
  | @cons text element texts elements hfirst hfollowing =>
      have hbound : (text :: texts).length ≤
          (Text.join [',', ' '] (text :: texts) ++ close :: rest).length := by
        have hlength := length_le_length_join (.cons hfirst hfollowing)
        rw [List.length_append]
        omega
      have helements := readElements_join hspace hclose hmark (.cons hfirst hfollowing)
        (List.cons_ne_nil _ _) hbound rest
      obtain ⟨c, cs, htext, hgap, hother⟩ := hfirst.head
      have hfront : ∃ more, Text.join [',', ' '] (text :: texts) ++ close :: rest = c :: more := by
        cases texts <;> exact ⟨_, by rw [htext]; rfl⟩
      obtain ⟨more, hmore⟩ := hfront
      rw [readEnclosed, hmore, skipGap_cons hgap]
      simp only [beq_false_of_ne hother, Bool.false_eq_true, if_false]
      rw [← hmore]
      exact helements

end

end Json
end PagedQuery
