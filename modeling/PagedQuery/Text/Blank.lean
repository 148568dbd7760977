/-!
# Blank characters and stripping

A character is blank when it separates words: the ASCII controls that move the
cursor, the four ASCII separators, and the Unicode spaces.  Stripping a text
removes the blanks at both of its ends.

Main results:

- Theorem `isBlank_of_isWhitespace`: every ASCII whitespace character is blank.
-/

namespace PagedQuery
namespace Text

/-- Code points of the blank characters beyond the ranges of `isBlank`. -/
def loneBlanks : List Nat :=
  [0x20, 0x85, 0xA0, 0x1680, 0x2028, 0x2029, 0x202F, 0x205F, 0x3000]

/-- The character separates words. -/
def isBlank (c : Char) : Bool :=
  (0x09 ≤ c.toNat && c.toNat ≤ 0x0D) || (0x1C ≤ c.toNat && c.toNat ≤ 0x1F) ||
    (0x2000 ≤ c.toNat && c.toNat ≤ 0x200A) || loneBlanks.contains c.toNat

/-- Remove the characters of a class from both ends. -/
def stripBoth (drop : Char → Bool) (cs : List Char) : List Char :=
  ((cs.dropWhile drop).reverse.dropWhile drop).reverse

/-- Remove the blanks at the end. -/
def stripEnd (cs : List Char) : List Char :=
  (cs.reverse.dropWhile isBlank).reverse

/-- Remove the blanks at both ends. -/
def stripChars (cs : List Char) : List Char := stripBoth isBlank cs

/-- Remove the blanks at both ends of a text. -/
def strip (s : String) : String := .ofList (stripChars s.toList)

theorem isBlank_of_isWhitespace {c : Char} (h : c.isWhitespace = true) :
    isBlank c = true := by
  simp only [Char.isWhitespace, Bool.or_eq_true, decide_eq_true_eq] at h
  rcases h with ((h | h) | h) | h <;> subst h <;> decide

@[simp]
theorem stripChars_nil : stripChars [] = [] := rfl

/-- Dropping from the front leaves the dropped class only behind a kept head. -/
theorem dropWhile_eq_self_of_head {p : Char → Bool} {c : Char} {cs : List Char}
    (h : p c = false) : (c :: cs).dropWhile p = c :: cs := by
  simp [List.dropWhile, h]

end Text
end PagedQuery
