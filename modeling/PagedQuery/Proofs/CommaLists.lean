import PagedQuery.Proofs.Stripping
import PagedQuery.Text.Fields

/-!
# Comma lists written and read

The items of a comma list have no comma and no blanks around them, so they can be told apart
again when they are written one after another with commas in between.

Main results:

- Theorem `splitOn_join`: pieces without the separating character are found again.
- Theorem `commaFields_joinTexts`: reading a written comma list gives its items.
- Theorem `isItem_of_mem_commaFields`: what is read from a comma list can be written in one.
-/

namespace PagedQuery
namespace Text

variable {separator : Char} {piece : List Char}

/-- A text without the separating character is one piece. -/
theorem splitOn_of_not_mem (h : separator ∉ piece) : splitOn separator piece = [piece] := by
  induction piece with
  | nil => rfl
  | cons c cs ih =>
      rw [List.mem_cons, not_or] at h
      have hc : (c == separator) = false := by simpa using Ne.symm h.1
      rw [splitOn, hc, ih h.2]
      rfl

/-- The first piece ends at the first separating character. -/
theorem splitOn_append_cons (h : separator ∉ piece) (rest : List Char) :
    splitOn separator (piece ++ separator :: rest) = piece :: splitOn separator rest := by
  induction piece with
  | nil => rw [List.nil_append, splitOn, beq_self_eq_true, if_pos rfl]
  | cons c cs ih =>
      rw [List.mem_cons, not_or] at h
      have hc : (c == separator) = false := by simpa using Ne.symm h.1
      rw [List.cons_append, splitOn, hc, ih h.2]
      rfl

/-- Pieces without the separating character are found again when they are written one after
another. -/
theorem splitOn_join {pieces : List (List Char)} (hsome : pieces ≠ [])
    (h : ∀ piece ∈ pieces, separator ∉ piece) :
    splitOn separator (join [separator] pieces) = pieces := by
  induction pieces with
  | nil => exact absurd rfl hsome
  | cons piece pieces ih =>
      rw [List.forall_mem_cons] at h
      cases pieces with
      | nil => exact splitOn_of_not_mem h.1
      | cons next rest =>
          rw [join, List.append_assoc, List.singleton_append, splitOn_append_cons h.1,
            ih (List.cons_ne_nil next rest) h.2]
          exact List.cons_ne_nil next rest

/-- The pieces of a text do not have the separating character. -/
theorem not_mem_of_mem_splitOn {cs : List Char} (h : piece ∈ splitOn separator cs) :
    separator ∉ piece := by
  induction cs generalizing piece with
  | nil =>
      rw [List.mem_singleton.1 h]
      exact List.not_mem_nil
  | cons c cs ih =>
      rw [splitOn] at h
      split at h
      · rcases List.mem_cons.1 h with rfl | hrest
        · exact List.not_mem_nil
        · exact ih hrest
      · rename_i hc
        cases hpieces : splitOn separator cs with
        | nil => exact absurd hpieces (splitOn_ne_nil separator cs)
        | cons first rest =>
            rw [hpieces, consPiece] at h
            rw [hpieces, List.forall_mem_cons] at ih
            rcases List.mem_cons.1 h with rfl | hrest
            · rw [List.mem_cons, not_or]
              exact ⟨fun hsame => hc (beq_iff_eq.2 hsame.symm), ih.1⟩
            · exact ih.2 piece hrest

/-- The text can be an item of a comma list: there is something in it, but no comma, and no
blanks stand around it. -/
structure IsItem (s : String) : Prop where
  ne_empty : s ≠ ""
  noComma : ',' ∉ s.toList
  stripped : stripChars s.toList = s.toList

/-- The items of comma lists are the texts that are not empty, have no comma, and neither start
nor end with a blank. -/
theorem isItem_iff {s : String} :
    IsItem s ↔ s ≠ "" ∧ ',' ∉ s.toList ∧ IsBare isBlank s.toList := by
  have hbare : stripChars s.toList = s.toList ↔ IsBare isBlank s.toList := by
    rw [stripChars, stripBoth_eq_iff]
    constructor
    · rintro ⟨_, _, _, _, _, h⟩
      exact h
    · intro h
      exact ⟨[], [], by simp, List.forall_mem_nil _, List.forall_mem_nil _, h⟩
  rw [← hbare]
  exact ⟨fun h => ⟨h.ne_empty, h.noComma, h.stripped⟩, fun h => ⟨h.1, h.2.1, h.2.2⟩⟩

/-- What is read from a comma list can be an item of one. -/
theorem isItem_of_mem_commaFields {text s : String} (h : s ∈ commaFields text) : IsItem s := by
  have hne := commaFields_ne_empty h
  simp only [commaFields, commaFieldChars, List.mem_map, List.mem_filter] at h
  obtain ⟨_, ⟨⟨piece, hpiece, rfl⟩, -⟩, rfl⟩ := h
  obtain ⟨front, back, hsplit, -, -, hbare⟩ :=
    stripBoth_eq_iff.1 (rfl : stripBoth isBlank piece = stripChars piece)
  rw [isItem_iff, String.toList_ofList]
  refine ⟨hne, ?_, hbare⟩
  intro hcomma
  apply not_mem_of_mem_splitOn hpiece
  rw [hsplit]
  exact List.mem_append_left back (List.mem_append_right front hcomma)

/-- Reading a written comma list gives its items. -/
theorem commaFields_joinTexts {items : List String} (h : ∀ s ∈ items, IsItem s) :
    commaFields (joinTexts "," items) = items := by
  have hsplit : commaFieldChars (join [','] (items.map String.toList)) =
      items.map String.toList := by
    cases items with
    | nil => rfl
    | cons first rest =>
        have hpieces : ∀ piece ∈ (first :: rest).map String.toList, ',' ∉ piece :=
          List.forall_mem_map.2 fun s hs => (h s hs).noComma
        have hstrip : ((first :: rest).map String.toList).map stripChars =
            (first :: rest).map String.toList := by
          rw [List.map_map]
          exact List.map_congr_left fun s hs => (h s hs).stripped
        have hfull : ∀ piece ∈ (first :: rest).map String.toList,
            (!piece.isEmpty) = true := by
          intro piece hpiece
          obtain ⟨s, hs, rfl⟩ := List.mem_map.1 hpiece
          simpa using (h s hs).ne_empty
        rw [commaFieldChars, splitOn_join (by simp) hpieces, hstrip,
          List.filter_eq_self.2 hfull]
  have hcomma : ",".toList = [','] := rfl
  rw [commaFields, toList_joinTexts, hcomma, hsplit, List.map_map]
  exact (List.map_congr_left fun s _ => String.ofList_toList).trans (List.map_id items)

end Text
end PagedQuery
