import PagedQuery.Text.Blank

/-!
# Splitting text into fields

Fields are the pieces of a text between separators.  A comma list names its
items with any blanks around them, and blank pieces name nothing.

Main results:

- Theorem `splitOn_ne_nil`: there is always at least one piece.
- Theorem `join_splitOn`: joining the pieces gives the text back.
- Theorem `commaFields_filter`: blank pieces may be left out before the others are stripped.
- Theorem `commaFields_ne_empty`: no item of a comma list is empty.
-/

namespace PagedQuery
namespace Text

/-- Put a character in front of the first piece. -/
def consPiece (c : Char) : List (List Char) → List (List Char)
  | [] => [[c]]
  | piece :: pieces => (c :: piece) :: pieces

/-- The pieces of a text between the occurrences of a separating character. -/
def splitOn (separator : Char) : List Char → List (List Char)
  | [] => [[]]
  | c :: cs =>
      if c == separator then [] :: splitOn separator cs
      else consPiece c (splitOn separator cs)

/-- Pieces written one after another with a separator in between. -/
def join (separator : List Char) : List (List Char) → List Char
  | [] => []
  | [piece] => piece
  | piece :: pieces => piece ++ separator ++ join separator pieces

/-- Texts written one after another with a separator in between. -/
def joinTexts (separator : String) : List String → String
  | [] => ""
  | [text] => text
  | text :: texts => text ++ separator ++ joinTexts separator texts

/-- The items of a comma list: stripped pieces that are not blank. -/
def commaFieldChars (cs : List Char) : List (List Char) :=
  ((splitOn ',' cs).map stripChars).filter fun piece => !piece.isEmpty

/-- The items of a comma list. -/
def commaFields (s : String) : List String :=
  (commaFieldChars s.toList).map String.ofList

@[simp]
theorem consPiece_ne_nil (c : Char) (pieces : List (List Char)) :
    consPiece c pieces ≠ [] := by
  cases pieces <;> simp [consPiece]

theorem splitOn_ne_nil (separator : Char) (cs : List Char) :
    splitOn separator cs ≠ [] := by
  cases cs with
  | nil => simp [splitOn]
  | cons c cs =>
      unfold splitOn
      split <;> simp

theorem join_consPiece (separator : List Char) (c : Char)
    {pieces : List (List Char)} (h : pieces ≠ []) :
    join separator (consPiece c pieces) = c :: join separator pieces := by
  match pieces, h with
  | [piece], _ => rfl
  | piece :: next :: rest, _ => simp [consPiece, join]

theorem join_splitOn (separator : Char) (cs : List Char) :
    join [separator] (splitOn separator cs) = cs := by
  induction cs with
  | nil => rfl
  | cons c cs ih =>
      unfold splitOn
      split
      · rename_i h
        have h : c = separator := by simpa using h
        match hs : splitOn separator cs, splitOn_ne_nil separator cs with
        | piece :: pieces, _ => simp [join, ← hs, ih, h]
      · rw [join_consPiece _ _ (splitOn_ne_nil separator cs), ih]

/-- Joining texts joins their characters. -/
theorem toList_joinTexts (separator : String) (texts : List String) :
    (joinTexts separator texts).toList = join separator.toList (texts.map String.toList) := by
  induction texts with
  | nil => rfl
  | cons text texts ih =>
      cases texts with
      | nil => rfl
      | cons next rest =>
          rw [joinTexts, String.toList_append, String.toList_append, ih]
          · rfl
          · simp

theorem commaFields_filter (s : String) :
    commaFields s = ((splitOn ',' s.toList).filter fun piece => !(stripChars piece).isEmpty).map
      fun piece => .ofList (stripChars piece) := by
  rw [commaFields, commaFieldChars, List.filter_map, List.map_map]
  rfl

theorem commaFields_ne_empty {s item : String} (h : item ∈ commaFields s) :
    item ≠ "" := by
  simp only [commaFields, commaFieldChars, List.mem_map, List.mem_filter] at h
  obtain ⟨piece, ⟨_, hne⟩, rfl⟩ := h
  intro he
  have : piece = [] := by simpa using congrArg String.toList he
  simp [this] at hne

end Text
end PagedQuery
