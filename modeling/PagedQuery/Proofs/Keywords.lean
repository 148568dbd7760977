import Mathlib.Data.List.Nodup
import Mathlib.Data.List.TakeWhile
import PagedQuery.Query.CountText

/-!
# Keywords in a text

A keyword stands in a text as a whole word: no letter, digit or low line goes on from it
to either side.  That is a matter of its own neighbours, so a stretch of a text has the
keywords of the text, as long as no word is cut at its ends.

Main results:

- Theorem `mem_fromStarts` and Theorem `mem_orderByStarts`: the positions that are found in
  a text are those of its keywords.
- Theorem `StandsAt.widen` and Theorem `StandsAt.narrow`: what a text and a stretch of it
  have in common.
-/

namespace PagedQuery

open Text

/-! ## The ends of words -/

/-- No word has the character in it: it is not alphanumeric and no low line. -/
def Separates (c : Char) : Prop := isAlphanumeric c = false ∧ c ≠ '_'

/-- No word goes on behind the text. -/
def EndsApart (cs : List Char) : Prop := ∀ c ∈ cs.getLast?, Separates c

/-- No word goes on before the text. -/
def StartsApart (cs : List Char) : Prop := ∀ c ∈ cs.head?, Separates c

/-- Words are made of the characters that do not separate them. -/
theorem isWordChar_eq_false_iff {c : Char} : isWordChar c = false ↔ Separates c := by
  rw [isWordChar, Bool.or_eq_false_iff, beq_eq_false_iff_ne, Separates, and_comm]

/-- A word ends where none goes on. -/
theorem atWordEnd_iff {cs : List Char} : atWordEnd cs = true ↔ StartsApart cs := by
  cases cs with
  | nil => simp [atWordEnd, StartsApart]
  | cons c cs => simp [atWordEnd, StartsApart, isWordChar_eq_false_iff]

theorem endsApart_nil : EndsApart [] := by
  simp [EndsApart]

theorem startsApart_nil : StartsApart [] := by
  simp [StartsApart]

/-- A text ends as its last character does. -/
theorem endsApart_concat {cs : List Char} {c : Char} :
    EndsApart (cs ++ [c]) ↔ isWordChar c = false := by
  simp [EndsApart, isWordChar_eq_false_iff]

/-- A text ends as what stands at its end does. -/
theorem endsApart_append {xs ys : List Char} (hys : ys ≠ []) :
    EndsApart (xs ++ ys) ↔ EndsApart ys := by
  rw [EndsApart, EndsApart, List.getLast?_append_of_ne_nil xs hys]

/-- The part of a text without words across its border. -/
theorem EndsApart.of_append {xs ys : List Char} (h : EndsApart (xs ++ ys)) : EndsApart ys := by
  rcases eq_or_ne ys [] with rfl | hys
  · exact endsApart_nil
  · exact (endsApart_append hys).1 h

/-! ## Keywords -/

/-- The keyword that the rows come from. -/
def IsFrom (word : List Char) : Prop := word = "from".toList

/-- The keyword that the rows are sorted by: two words with blanks in between. -/
def IsOrderBy (word : List Char) : Prop :=
  ∃ blanks : List Char, blanks ≠ [] ∧ (∀ c ∈ blanks, isBlank c = true) ∧
    word = "order".toList ++ blanks ++ "by".toList

/-- A keyword stands at the start of a text, and no word goes on behind it. -/
def Begins (keyword : List Char → Prop) (cs : List Char) : Prop :=
  ∃ word after, cs = word ++ after ∧ keyword word ∧ StartsApart after

/-- A keyword stands at a position of a text as a whole word. -/
def StandsAt (keyword : List Char → Prop) (cs : List Char) (i : Nat) : Prop :=
  ∃ before after, cs = before ++ after ∧ before.length = i ∧ EndsApart before ∧
    Begins keyword after

section

variable {keyword : List Char → Prop}

/-- A keyword stands behind what comes before it. -/
theorem standsAt_length {before cs : List Char} :
    StandsAt keyword (before ++ cs) before.length ↔ EndsApart before ∧ Begins keyword cs := by
  constructor
  · rintro ⟨xs, ys, hcs, hlength, hxs, hys⟩
    obtain ⟨rfl, rfl⟩ := List.append_inj hcs hlength.symm
    exact ⟨hxs, hys⟩
  · rintro ⟨hbefore, hcs⟩
    exact ⟨before, cs, rfl, rfl, hbefore, hcs⟩

/-- The keyword ends in the middle of a word, so that it is not empty. -/
def EndsInWord (keyword : List Char → Prop) : Prop := ∀ word, keyword word → ¬ EndsApart word

theorem EndsInWord.ne_nil (hword : EndsInWord keyword) {word : List Char}
    (h : keyword word) : word ≠ [] :=
  fun hnil => hword word h (hnil ▸ endsApart_nil)

theorem not_begins_nil (hword : EndsInWord keyword) : ¬ Begins keyword [] := by
  rintro ⟨word, after, hcs, hkey, -⟩
  exact hword.ne_nil hkey (List.append_eq_nil_iff.1 hcs.symm).1

/-- Keywords stand inside the text. -/
theorem StandsAt.lt (hword : EndsInWord keyword) {cs : List Char} {i : Nat}
    (h : StandsAt keyword cs i) : i < cs.length := by
  obtain ⟨before, after, rfl, rfl, -, hafter⟩ := h
  have hne : after ≠ [] := fun hnil => not_begins_nil hword (hnil ▸ hafter)
  rw [List.length_append]
  exact Nat.lt_add_of_pos_right (List.length_pos_iff.2 hne)

/-- A keyword at the start of a text is there in a longer one, unless the text ends in the
middle of a word. -/
theorem Begins.widen (hword : EndsInWord keyword) {cs tail : List Char}
    (h : Begins keyword cs) (hcut : EndsApart cs ∨ StartsApart tail) :
    Begins keyword (cs ++ tail) := by
  obtain ⟨word, after, rfl, hkey, hafter⟩ := h
  refine ⟨word, after ++ tail, List.append_assoc _ _ _, hkey, ?_⟩
  cases after with
  | nil =>
      rw [List.append_nil] at hcut
      exact hcut.resolve_left (hword word hkey)
  | cons c after => exact hafter

/-- The keywords of a stretch of a text are keywords of the text, unless a word is cut at
one of its ends. -/
theorem StandsAt.widen (hword : EndsInWord keyword) {head body tail : List Char} {i : Nat}
    (h : StandsAt keyword body i) (hhead : EndsApart head)
    (hcut : EndsApart body ∨ StartsApart tail) :
    StandsAt keyword (head ++ body ++ tail) (head.length + i) := by
  obtain ⟨before, after, rfl, rfl, hbefore, hafter⟩ := h
  have hleft : EndsApart (head ++ before) := by
    rcases eq_or_ne before [] with rfl | hne
    · rwa [List.append_nil]
    · exact (endsApart_append hne).2 hbefore
  have hright : Begins keyword (after ++ tail) :=
    hafter.widen hword (hcut.imp_left EndsApart.of_append)
  rw [← List.length_append, ← List.append_assoc, List.append_assoc]
  exact standsAt_length.2 ⟨hleft, hright⟩

/-- The keywords behind the head of a text are keywords of what comes there. -/
theorem StandsAt.narrow {head body : List Char} {i : Nat}
    (h : StandsAt keyword (head ++ body) i) (hi : head.length ≤ i) :
    StandsAt keyword body (i - head.length) := by
  obtain ⟨before, after, hcs, rfl, hbefore, hafter⟩ := h
  obtain ⟨more, rfl⟩ := List.prefix_of_prefix_length_le ⟨body, hcs⟩ ⟨after, rfl⟩ hi
  rw [List.append_assoc, List.append_cancel_left_eq] at hcs
  subst hcs
  rw [List.length_append, Nat.add_sub_cancel_left]
  exact standsAt_length.2 ⟨hbefore.of_append, hafter⟩

end

/-! ## The two keywords -/

theorem endsInWord_isFrom : EndsInWord IsFrom := by
  rintro word rfl
  rw [show "from".toList = ['f', 'r', 'o'] ++ ['m'] from rfl, endsApart_concat]
  decide

theorem endsInWord_isOrderBy : EndsInWord IsOrderBy := by
  rintro word ⟨blanks, -, -, rfl⟩
  rw [show "by".toList = ['b'] ++ ['y'] from rfl, ← List.append_assoc, endsApart_concat]
  decide

/-- A text has the first letters of the keywords that begin it. -/
theorem Begins.cons_isFrom {cs : List Char} (h : Begins IsFrom cs) :
    ∃ rest, cs = 'f' :: 'r' :: rest := by
  obtain ⟨word, after, rfl, rfl, -⟩ := h
  exact ⟨'o' :: 'm' :: after, rfl⟩

theorem Begins.cons_isOrderBy {cs : List Char} (h : Begins IsOrderBy cs) :
    ∃ rest, cs = 'o' :: 'r' :: rest := by
  obtain ⟨word, after, rfl, ⟨blanks, -, -, rfl⟩, -⟩ := h
  exact ⟨_, rfl⟩

/-- The keywords are told apart by where they stand. -/
theorem StandsAt.ne {cs : List Char} {i j : Nat} (hi : StandsAt IsFrom cs i)
    (hj : StandsAt IsOrderBy cs j) : i ≠ j := by
  rintro rfl
  obtain ⟨before, after, rfl, rfl, -, hfrom⟩ := hi
  obtain ⟨_, rfl⟩ := hfrom.cons_isFrom
  obtain ⟨_, horder⟩ := (standsAt_length.1 hj).2.cons_isOrderBy
  cases horder

/-- The word `from` at the start of a text is there in each part of it that does not end
in the middle of a word. -/
theorem Begins.narrow_isFrom {cs tail : List Char} (h : Begins IsFrom (cs ++ tail))
    (hne : cs ≠ []) (hcut : tail = [] ∨ EndsApart cs) : Begins IsFrom cs := by
  rcases hcut with rfl | hcut
  · rwa [List.append_nil] at h
  obtain ⟨word, after, hcs, rfl, hafter⟩ := h
  have hletters : ∀ c ∈ ['f', 'r', 'o', 'm'], isWordChar c = true :=
    List.all_eq_true.1 (by decide)
  rcases List.append_eq_append_iff.1 hcs with ⟨more, hword, rfl⟩ | ⟨more, rfl, rfl⟩
  · obtain ⟨init, c, rfl⟩ := (List.eq_nil_or_concat' cs).resolve_left hne
    have hc : c ∈ "from".toList := by simp [hword]
    exact absurd ((hletters c hc).symm.trans (endsApart_concat.1 hcut)) Bool.noConfusion
  · refine ⟨_, more, rfl, rfl, ?_⟩
    cases more with
    | nil => exact startsApart_nil
    | cons c more => exact hafter

/-! ## Finding keywords -/

/-- What follows a word at the start of a text. -/
theorem afterWord?_eq_some_iff {word cs rest : List Char} :
    afterWord? word cs = some rest ↔ cs = word ++ rest := by
  rw [afterWord?, Option.ite_none_right_eq_some, List.isPrefixOf_iff_prefix,
    Option.some_inj]
  constructor
  · rintro ⟨⟨rest, rfl⟩, rfl⟩
    rw [List.drop_left]
  · rintro rfl
    exact ⟨List.prefix_append _ _, List.drop_left⟩

/-- The word `from` is found at the start of a text exactly when it stands there. -/
theorem startsFrom_iff {cs : List Char} : startsFrom cs = true ↔ Begins IsFrom cs := by
  constructor
  · intro h
    unfold startsFrom at h
    split at h
    · rename_i rest hrest
      exact ⟨_, rest, afterWord?_eq_some_iff.1 hrest, rfl, atWordEnd_iff.1 h⟩
    · cases h
  · rintro ⟨word, after, rfl, rfl, hafter⟩
    have hrest := afterWord?_eq_some_iff.2 (rfl : "from".toList ++ after = _ ++ after)
    rw [startsFrom, show ['f', 'r', 'o', 'm'] = "from".toList from rfl, hrest]
    exact atWordEnd_iff.2 hafter

/-- Blanks end where something else begins. -/
theorem dropWhile_isBlank {blanks cs : List Char} (hblanks : ∀ c ∈ blanks, isBlank c = true) :
    (blanks ++ 'b' :: cs).dropWhile isBlank = 'b' :: cs := by
  rw [List.dropWhile_append_of_pos hblanks, List.dropWhile_cons_of_neg (by decide)]

/-- The words `order by` are found at the start of a text exactly when they stand there. -/
theorem startsOrderBy_iff {cs : List Char} :
    startsOrderBy cs = true ↔ Begins IsOrderBy cs := by
  constructor
  · intro h
    unfold startsOrderBy at h
    split at h
    · cases h
    · rename_i rest hrest
      obtain ⟨hfirst, hlast⟩ := Bool.and_eq_true_iff.1 h
      split at hlast
      · rename_i after hafter
        have hrest := afterWord?_eq_some_iff.1 hrest
        have hafter := afterWord?_eq_some_iff.1 hafter
        refine ⟨"order".toList ++ rest.takeWhile isBlank ++ "by".toList, after, ?_,
          ⟨_, ?_, ?_, rfl⟩, atWordEnd_iff.1 hlast⟩
        · rw [List.append_assoc, List.append_assoc, show "by".toList = ['b', 'y'] from rfl,
            ← hafter, List.takeWhile_append_dropWhile, hrest]
          rfl
        · cases rest with
          | nil => cases hfirst
          | cons c rest => simp [hfirst]
        · exact fun c hc => List.mem_takeWhile_imp hc
      · cases hlast
  · rintro ⟨word, after, rfl, ⟨blanks, hne, hblanks, rfl⟩, hafter⟩
    obtain ⟨c, blanks, rfl⟩ := List.exists_cons_of_ne_nil hne
    have hrest : afterWord? ['o', 'r', 'd', 'e', 'r']
        ("order".toList ++ (c :: blanks) ++ "by".toList ++ after) =
          some (c :: (blanks ++ 'b' :: 'y' :: after)) :=
      afterWord?_eq_some_iff.2 (by rw [List.append_assoc, List.append_assoc]; rfl)
    have hdrop : (c :: (blanks ++ 'b' :: 'y' :: after)).dropWhile isBlank =
        'b' :: 'y' :: after := dropWhile_isBlank hblanks
    have hby : afterWord? ['b', 'y'] ('b' :: 'y' :: after) = some after :=
      afterWord?_eq_some_iff.2 rfl
    simp only [startsOrderBy, hrest, hdrop, hby, hblanks c List.mem_cons_self,
      atWordEnd_iff.2 hafter, Bool.and_self]

/-- The positions that are found are some of those that there are, in their order. -/
theorem keywordStarts_sublist {starts : List Char → Bool} {position : Nat} {inWord : Bool}
    {cs : List Char} :
    (keywordStarts starts position inWord cs).Sublist (List.range' position cs.length) := by
  induction cs generalizing position inWord with
  | nil => exact List.Sublist.refl []
  | cons c cs ih =>
      rw [List.length_cons, List.range'_succ, keywordStarts]
      split
      · exact ih.cons_cons position
      · exact ih.cons position

section

variable {keyword : List Char → Prop} {starts : List Char → Bool}

/-- The positions that are found behind the head of a text are those of its keywords
there. -/
theorem mem_keywordStarts (hword : EndsInWord keyword)
    (hstarts : ∀ {cs}, starts cs = true ↔ Begins keyword cs) (before cs : List Char)
    {inWord : Bool} (hin : inWord = false ↔ EndsApart before) (i : Nat) :
    i ∈ keywordStarts starts before.length inWord cs ↔
      before.length ≤ i ∧ StandsAt keyword (before ++ cs) i := by
  induction cs generalizing before inWord with
  | nil =>
      rw [keywordStarts, List.append_nil]
      refine iff_of_false List.not_mem_nil ?_
      rintro ⟨hi, hstands⟩
      exact absurd (hstands.lt hword) (Nat.not_lt.2 hi)
  | cons c cs ih =>
      have hmore := ih (before ++ [c]) endsApart_concat.symm
      rw [List.length_append, List.length_singleton, List.append_assoc,
        List.singleton_append] at hmore
      have hhere : (!inWord && starts (c :: cs)) = true ↔
          StandsAt keyword (before ++ c :: cs) before.length := by
        rw [Bool.and_eq_true_iff, Bool.not_eq_true', hin, hstarts, standsAt_length]
      rw [keywordStarts]
      split
      · rename_i hfound
        rw [List.mem_cons, hmore]
        constructor
        · rintro (rfl | ⟨hi, hstands⟩)
          · exact ⟨Nat.le_refl _, hhere.1 hfound⟩
          · exact ⟨Nat.le_of_succ_le hi, hstands⟩
        · rintro ⟨hi, hstands⟩
          exact (Nat.eq_or_lt_of_le hi).imp Eq.symm fun hlt => ⟨hlt, hstands⟩
      · rename_i hfound
        rw [hmore]
        constructor
        · rintro ⟨hi, hstands⟩
          exact ⟨Nat.le_of_succ_le hi, hstands⟩
        · rintro ⟨hi, hstands⟩
          refine ⟨Nat.lt_of_le_of_ne hi ?_, hstands⟩
          rintro rfl
          exact hfound (hhere.2 hstands)

/-- The positions that are found in a text are those of its keywords. -/
theorem mem_starts_iff (hword : EndsInWord keyword)
    (hstarts : ∀ {cs}, starts cs = true ↔ Begins keyword cs) {cs : List Char} {i : Nat} :
    i ∈ keywordStarts starts 0 false cs ↔ StandsAt keyword cs i := by
  have h := mem_keywordStarts hword hstarts [] cs (iff_of_true rfl endsApart_nil) i
  rwa [List.nil_append, List.length_nil, and_iff_right (Nat.zero_le i)] at h

/-- No position is found twice. -/
theorem keywordStarts_nodup {position : Nat} {inWord : Bool} {cs : List Char} :
    (keywordStarts starts position inWord cs).Nodup :=
  keywordStarts_sublist.nodup List.nodup_range'

end

/-- The positions that are found of the word `from` are those where it stands. -/
theorem mem_fromStarts {cs : List Char} {i : Nat} :
    i ∈ fromStarts cs ↔ StandsAt IsFrom cs i :=
  mem_starts_iff endsInWord_isFrom startsFrom_iff

/-- The positions that are found of the words `order by` are those where they stand. -/
theorem mem_orderByStarts {cs : List Char} {i : Nat} :
    i ∈ orderByStarts cs ↔ StandsAt IsOrderBy cs i :=
  mem_starts_iff endsInWord_isOrderBy startsOrderBy_iff

/-- A longer word that starts with a keyword is none, and blanks may be repeated. -/
example :
    let cs := "select u.fromDate from User u order  by u.name".toList
    fromStarts cs = [18] ∧ orderByStarts cs = [30] := by
  decide +kernel

end PagedQuery
