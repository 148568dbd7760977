import Mathlib.Data.List.DropRight
import PagedQuery.Proofs.Keywords
import PagedQuery.Proofs.NamedBindings

/-!
# Query texts bound by position

What reaches the database of a query text has the name of a numbered placeholder in the place
of every question mark, and its values stand under the same names.  As long as the text has no
such names of its own, and no word goes on behind a question mark, the names can be read off
the statement again: they are numbered in the order of the text, however many digits the
numbers have, and question marks in their places give the text back.

Main results:

- Theorem `statementParts_numberPlaceholders`: the names in a numbered text are the ones that
  were put there.
- Theorem `stripEnd_numberPlaceholders`: blanks at the end can be removed before or after.
- Theorem `bindsInOrder`: what the statement of a text binds.
- Theorem `positional_sent`: values bound by position reach the database under the names of
  their own placeholders.
-/

namespace PagedQuery
namespace Relational

open Numeric Repository Text

/-! ## Reading the names of placeholders -/

/-- A part of a statement: the name of a numbered placeholder, or any other character. -/
inductive StatementPart where
  | place (digits : List Char)
  | char (c : Char)
  deriving DecidableEq

namespace StatementPart

/-- The name of a placeholder. -/
def name? : StatementPart → Option (List Char)
  | place digits => some (':' :: '_' :: 'p' :: digits)
  | char _ => none

/-- A part with a question mark in the place of a name. -/
def marked : StatementPart → Char
  | place _ => '?'
  | char c => c

end StatementPart

/-- The digits of the name at the start of a text, as many as there are. -/
def placeDigits? (cs : List Char) : Option (List Char) :=
  match afterWord? [':', '_', 'p'] cs with
  | none => none
  | some rest =>
      match rest.takeWhile isAsciiDigit with
      | [] => none
      | digits => some digits

/-- The parts of a statement, with as many digits in a name as there are. -/
def statementParts : List Char → List StatementPart
  | [] => []
  | c :: cs =>
      match placeDigits? (c :: cs) with
      | some digits => .place digits :: statementParts (cs.drop (digits.length + 2))
      | none => .char c :: statementParts cs
termination_by cs => cs.length
decreasing_by
  · rw [List.length_drop, List.length_cons]
    omega
  · exact Nat.lt_succ_self _

/-- The names of numbered placeholders in a statement, in the order of the text. -/
def boundNames (cs : List Char) : List (List Char) :=
  (statementParts cs).filterMap StatementPart.name?

/-- A statement with question marks put back in the places of numbered placeholders. -/
def withMarks (cs : List Char) : List Char := (statementParts cs).map StatementPart.marked

/-- No numeral goes on at the start of the text. -/
def EndsNumeral (cs : List Char) : Prop := ∀ c ∈ cs.head?, isAsciiDigit c = false

/-- A name with all its digits is read at the start of a text. -/
theorem placeDigits?_name {digits rest : List Char} (hne : digits ≠ [])
    (hdigits : ∀ c ∈ digits, isAsciiDigit c = true) (hrest : EndsNumeral rest) :
    placeDigits? (':' :: '_' :: 'p' :: (digits ++ rest)) = some digits := by
  have hafter : afterWord? [':', '_', 'p'] (':' :: '_' :: 'p' :: (digits ++ rest)) =
      some (digits ++ rest) := afterWord?_eq_some_iff.2 rfl
  have hnone : rest.takeWhile isAsciiDigit = [] := by
    cases rest with
    | nil => rfl
    | cons c rest => rw [List.takeWhile_cons, hrest c rfl, if_neg Bool.false_ne_true]
  have htaken : (digits ++ rest).takeWhile isAsciiDigit = digits := by
    rw [List.takeWhile_append_of_pos hdigits, hnone, List.append_nil]
  obtain ⟨d, digits, rfl⟩ := List.exists_cons_of_ne_nil hne
  simp only [placeDigits?, hafter, htaken]

/-- A name that is read stands at the start of the text. -/
theorem name_of_placeDigits? {cs digits : List Char} (h : placeDigits? cs = some digits) :
    ∃ rest, cs = ':' :: '_' :: 'p' :: (digits ++ rest) := by
  rw [placeDigits?] at h
  split at h
  · cases h
  · rename_i rest hrest
    split at h
    · cases h
    · cases h
      exact ⟨_, (afterWord?_eq_some_iff.1 hrest).trans
        (congrArg _ List.takeWhile_append_dropWhile.symm)⟩

/-- A name with all its digits is a part of a statement. -/
theorem statementParts_name {digits rest : List Char} (hne : digits ≠ [])
    (hdigits : ∀ c ∈ digits, isAsciiDigit c = true) (hrest : EndsNumeral rest) :
    statementParts (':' :: '_' :: 'p' :: (digits ++ rest)) =
      .place digits :: statementParts rest := by
  rw [statementParts, placeDigits?_name hne hdigits hrest]
  simp only [List.drop_succ_cons, List.drop_left]

/-- Where no name starts, a character is a part of its own. -/
theorem statementParts_char {c : Char} {cs : List Char} (h : ¬[':', '_', 'p'] <+: c :: cs) :
    statementParts (c :: cs) = .char c :: statementParts cs := by
  have hnone : placeDigits? (c :: cs) = none := by
    cases hdigits : placeDigits? (c :: cs) with
    | none => rfl
    | some digits =>
        obtain ⟨rest, hrest⟩ := name_of_placeDigits? hdigits
        exact absurd ⟨digits ++ rest, hrest.symm⟩ h
  rw [statementParts, hnone]

/-! ## Texts with free question marks -/

/-- A text without names of numbered placeholders, in which no word goes on behind a question
mark. -/
structure HasFreeMarks (cs : List Char) : Prop where
  unnamed : ¬[':', '_', 'p'] <:+: cs
  apart : ∀ c, isWordChar c = true → ¬['?', c] <:+: cs

/-- A part of a text with free question marks has free question marks. -/
theorem HasFreeMarks.of_infix {cs ds : List Char} (h : HasFreeMarks cs) (hin : ds <:+: cs) :
    HasFreeMarks ds where
  unnamed hname := h.unnamed (hname.trans hin)
  apart c hc hmark := h.apart c hc (hmark.trans hin)

/-- What stands on both sides of a character stands on one of them, unless it has that
character. -/
theorem infix_of_not_mem {α : Type} {cs xs ys : List α} {d : α} (hd : d ∉ cs)
    (h : cs <:+: xs ++ d :: ys) : cs <:+: xs ∨ cs <:+: ys := by
  rw [List.infix_append_iff, List.infix_cons_iff] at h
  rcases h with hleft | (⟨rest, hfront⟩ | hright) | ⟨front, back, rfl, hfront, ⟨rest, hback⟩⟩
  · exact .inl hleft
  · cases cs with
    | nil => exact .inl (List.nil_infix)
    | cons c cs =>
        rw [List.cons_append, List.cons.injEq] at hfront
        exact absurd (hfront.1 ▸ List.mem_cons_self) hd
  · exact .inr hright
  · cases back with
    | nil => exact .inl (by simpa using hfront.isInfix)
    | cons c back =>
        rw [List.cons_append, List.cons.injEq] at hback
        exact absurd (List.mem_append_right front (hback.1 ▸ List.mem_cons_self)) hd

/-- The clause of a slice names nothing that a question mark could stand for. -/
theorem HasFreeMarks.limited {cs : List Char} (h : HasFreeMarks cs) :
    HasFreeMarks (stripEnd cs ++ limitClause) := by
  have hstripped : stripEnd cs <:+: cs := (List.rdropWhile_prefix isBlank cs).isInfix
  have hclause : limitClause = ' ' :: limitClause.tail := rfl
  constructor
  · intro hname
    rw [hclause] at hname
    rcases infix_of_not_mem (by decide) hname with hname | hname
    · exact h.unnamed (hname.trans hstripped)
    · exact absurd hname (by decide)
  · intro c hc hmark
    have hblank : ' ' ∉ ['?', c] := by
      rw [List.mem_cons, List.mem_singleton, not_or]
      refine ⟨by decide, ?_⟩
      rintro rfl
      exact absurd hc (by decide +kernel)
    rw [hclause] at hmark
    rcases infix_of_not_mem hblank hmark with hmark | hmark
    · exact h.apart c hc (hmark.trans hstripped)
    · exact absurd (hmark.subset List.mem_cons_self) (by decide)

/-! ## Numbered texts -/

/-- The parts of a text with its question marks numbered. -/
def numberedParts (next : Nat) : List Char → List StatementPart
  | [] => []
  | c :: cs =>
      if c == '?' then .place (decimalDigits next) :: numberedParts (next + 1) cs
      else .char c :: numberedParts next cs

/-- The name of a placeholder of a text is written with its number. -/
theorem placeholderName_eq (k : Nat) :
    placeholderName k = '_' :: 'p' :: decimalDigits k := rfl

/-- A colon apart, a numbered text starts as the text does. -/
theorem eq_cons_of_numberPlaceholders {next : Nat} {cs rest : List Char} {d : Char}
    (hd : d ≠ ':') (h : numberPlaceholders next cs = d :: rest) :
    ∃ cs', cs = d :: cs' ∧ numberPlaceholders next cs' = rest := by
  cases cs with
  | nil => cases h
  | cons c cs =>
      rw [numberPlaceholders] at h
      split at h
      · rw [List.cons_append, List.cons.injEq] at h
        exact absurd h.1.symm hd
      · rw [List.cons.injEq] at h
        exact ⟨cs, by rw [h.1], h.2⟩

/-- A name starts in a numbered text only where one starts in the text, or in the place of a
question mark. -/
theorem prefix_of_numberPlaceholders {next : Nat} {c : Char} {cs : List Char}
    (h : [':', '_', 'p'] <+: c :: numberPlaceholders next cs) : [':', '_', 'p'] <+: c :: cs := by
  obtain ⟨rest, hrest⟩ := h
  rw [List.cons_append, List.cons.injEq] at hrest
  obtain ⟨rfl, hrest⟩ := hrest
  obtain ⟨ds, rfl, hds⟩ := eq_cons_of_numberPlaceholders (d := '_') (by decide) hrest.symm
  obtain ⟨es, rfl, -⟩ := eq_cons_of_numberPlaceholders (d := 'p') (by decide) hds
  exact ⟨es, rfl⟩

/-- ASCII digits go on with a word. -/
theorem isWordChar_of_isAsciiDigit {c : Char} (h : isAsciiDigit c = true) :
    isWordChar c = true := by
  rw [isAsciiDigit, Bool.and_eq_true, decide_eq_true_eq, decide_eq_true_eq] at h
  have hrange : isAlphanumeric c = true :=
    (inRanges_iff alphanumericRanges c).2 ⟨(48, 57), by decide, h.1, h.2⟩
  rw [isWordChar, hrange, Bool.or_true]

/-- Behind a free question mark no numeral goes on, numbered or not. -/
theorem HasFreeMarks.endsNumeral {cs : List Char} (h : HasFreeMarks ('?' :: cs)) (next : Nat) :
    EndsNumeral (numberPlaceholders next cs) := by
  intro d hd
  cases cs with
  | nil => cases hd
  | cons c cs =>
      rw [numberPlaceholders] at hd
      split at hd
      · cases hd
        decide
      · rw [List.head?_cons, Option.mem_def, Option.some.injEq] at hd
        subst hd
        rw [← Bool.not_eq_true]
        intro hdigit
        exact h.apart c (isWordChar_of_isAsciiDigit hdigit) ⟨[], cs, rfl⟩

/-- The names in a numbered text are the ones that were put in the places of its question
marks. -/
theorem statementParts_numberPlaceholders {cs : List Char} (h : HasFreeMarks cs) (next : Nat) :
    statementParts (numberPlaceholders next cs) = numberedParts next cs := by
  induction cs generalizing next with
  | nil => rw [numberPlaceholders, statementParts, numberedParts]
  | cons c cs ih =>
      have hrest : HasFreeMarks cs := h.of_infix (List.suffix_cons c cs).isInfix
      rw [numberPlaceholders, numberedParts]
      split
      · rename_i hmark
        rw [beq_iff_eq] at hmark
        subst hmark
        rw [placeholderName_eq, List.cons_append, List.cons_append, List.cons_append,
          statementParts_name (decimalDigits_ne_nil next) (decimalDigits_isDigit next)
            (h.endsNumeral _), ih hrest]
      · rw [statementParts_char, ih hrest]
        intro hname
        exact h.unnamed (prefix_of_numberPlaceholders hname).isInfix

/-- The name of a placeholder as it stands in a statement. -/
def namedPlace (k : Nat) : List Char := ':' :: placeholderName k

/-- The names in a numbered text go up by one. -/
theorem names_numberedParts (next : Nat) (cs : List Char) :
    (numberedParts next cs).filterMap StatementPart.name? =
      (List.range' next (cs.count '?')).map namedPlace := by
  induction cs generalizing next with
  | nil => rfl
  | cons c cs ih =>
      rw [numberedParts]
      split
      · rename_i hmark
        rw [beq_iff_eq] at hmark
        rw [hmark, List.count_cons_self, List.range'_succ, List.map_cons, ← ih (next + 1)]
        rfl
      · rename_i hmark
        rw [beq_iff_eq] at hmark
        rw [List.count_cons_of_ne hmark, ← ih next]
        rfl

/-- With question marks put back, a numbered text is the text. -/
theorem marked_numberedParts (next : Nat) (cs : List Char) :
    (numberedParts next cs).map StatementPart.marked = cs := by
  induction cs generalizing next with
  | nil => rfl
  | cons c cs ih =>
      rw [numberedParts]
      split
      · rename_i hmark
        rw [List.map_cons, ih, beq_iff_eq.1 hmark]
        rfl
      · rw [List.map_cons, ih]
        rfl

/-! ## Clauses behind a text -/

/-- A text is numbered part by part. -/
theorem numberPlaceholders_append (next : Nat) (cs ds : List Char) :
    numberPlaceholders next (cs ++ ds) =
      numberPlaceholders next cs ++ numberPlaceholders (next + cs.count '?') ds := by
  induction cs generalizing next with
  | nil => rfl
  | cons c cs ih =>
      rw [List.cons_append, numberPlaceholders, numberPlaceholders]
      split
      · rename_i hmark
        rw [beq_iff_eq] at hmark
        rw [ih, hmark, List.count_cons_self, Nat.add_right_comm, Nat.add_assoc,
          List.append_assoc]
      · rename_i hmark
        rw [beq_iff_eq] at hmark
        rw [ih, List.count_cons_of_ne hmark, List.cons_append]

/-- The last character of the name of a placeholder is not blank. -/
theorem placeholderName_concat (k : Nat) :
    ∃ cs d, placeholderName k = cs ++ [d] ∧ isBlank d = false := by
  have hdigit : ∀ d < 10, isBlank (digitChar d) = false := by decide
  rcases Nat.lt_or_ge k 10 with hk | hk
  · exact ⟨['_', 'p'], digitChar k, by rw [placeholderName_eq, decimalDigits_of_lt hk]; rfl,
      hdigit k hk⟩
  · exact ⟨'_' :: 'p' :: decimalDigits (k / 10), digitChar (k % 10),
      by rw [placeholderName_eq, decimalDigits_of_le hk]; rfl,
      hdigit _ (Nat.mod_lt k (by decide))⟩

/-- Blanks at the end of a text can be removed before its question marks are numbered, or
after. -/
theorem stripEnd_numberPlaceholders (next : Nat) (cs : List Char) :
    stripEnd (numberPlaceholders next cs) = numberPlaceholders next (stripEnd cs) := by
  -- The last character decides: a blank is left out of both, and a name ends in a digit.
  induction cs using List.reverseRecOn with
  | nil => rfl
  | append_singleton cs c ih =>
      rw [numberPlaceholders_append]
      by_cases hmark : c = '?'
      · obtain ⟨name, d, hname, hd⟩ := placeholderName_concat (next + cs.count '?')
        have hlast : numberPlaceholders (next + cs.count '?') ['?'] = (':' :: name) ++ [d] := by
          rw [List.cons_append, ← hname]
          exact List.append_nil _
        have hkept : stripEnd (cs ++ ['?']) = cs ++ ['?'] :=
          List.rdropWhile_concat_neg isBlank cs '?' (by decide)
        rw [hmark, hkept, numberPlaceholders_append, hlast, ← List.append_assoc]
        exact List.rdropWhile_concat_neg isBlank _ d (by simp [hd])
      · have hlast : '?' ∉ [c] := by simpa using Ne.symm hmark
        rw [numberPlaceholders_of_not_mem hlast]
        cases hc : isBlank c with
        | true =>
            have hcut : ∀ ds, stripEnd (ds ++ [c]) = stripEnd ds :=
              fun ds => List.rdropWhile_concat_pos isBlank ds c hc
            rw [hcut, hcut, ih]
        | false =>
            have hkept : ∀ ds, stripEnd (ds ++ [c]) = ds ++ [c] :=
              fun ds => List.rdropWhile_concat_neg isBlank ds c (by simp [hc])
            rw [hkept, hkept, numberPlaceholders_append, numberPlaceholders_of_not_mem hlast]

/-- Blanks at the end are no question marks. -/
theorem count_stripEnd (cs : List Char) : (stripEnd cs).count '?' = cs.count '?' := by
  induction cs using List.reverseRecOn with
  | nil => rfl
  | append_singleton cs c ih =>
      cases hc : isBlank c with
      | true =>
          have hmark : c ≠ '?' := by
            rintro rfl
            exact absurd hc (by decide)
          have hcut : stripEnd (cs ++ [c]) = stripEnd cs :=
            List.rdropWhile_concat_pos isBlank cs c hc
          rw [hcut, ih, List.count_append, List.count_singleton, if_neg (by simpa using hmark),
            Nat.add_zero]
      | false =>
          have hkept : stripEnd (cs ++ [c]) = cs ++ [c] :=
            List.rdropWhile_concat_neg isBlank cs c (by simp [hc])
          rw [hkept]

/-- A text with the clause of a slice, when there is one. -/
def slicedText (limit : Option Amount) (cs : List Char) : List Char :=
  match limit with
  | none => cs
  | some _ => stripEnd cs ++ limitClause

/-- The clause of a slice can be appended before question marks are numbered, or after. -/
theorem slicedText_numberPlaceholders (limit : Option Amount) (cs : List Char) :
    slicedText limit (numberPlaceholders 0 cs) = numberPlaceholders 0 (slicedText limit cs) := by
  cases limit with
  | none => rfl
  | some limit =>
      have hclause : '?' ∉ limitClause := by decide
      rw [slicedText, slicedText, stripEnd_numberPlaceholders, numberPlaceholders_append,
        numberPlaceholders_of_not_mem hclause]

/-- The clause of a slice has no question marks. -/
theorem count_slicedText (limit : Option Amount) (cs : List Char) :
    (slicedText limit cs).count '?' = cs.count '?' := by
  cases limit with
  | none => rfl
  | some limit =>
      have hclause : '?' ∉ limitClause := by decide
      rw [slicedText, List.count_append, count_stripEnd, List.count_eq_zero_of_not_mem hclause,
        Nat.add_zero]

/-- The clause of a slice leaves question marks free. -/
theorem HasFreeMarks.sliced {cs : List Char} (h : HasFreeMarks cs) (limit : Option Amount) :
    HasFreeMarks (slicedText limit cs) := by
  cases limit with
  | none => exact h
  | some limit => exact h.limited

/-! ## Values bound by position -/

/-- The values of a statement by the names of their placeholders. -/
def boundEntries (values : List Value) : Entries :=
  (TextQuery.numbered 0 values).map fun entry => (.ofList (placeholderName entry.1), entry.2)

/-- The values of a slice by their names. -/
def sliceEntries (offset limit : Option Amount) : Entries :=
  match limit with
  | none => []
  | some limit => [("_limit", limit.toValue), ("_offset", sentOffset offset)]

/-- The name under which the value of a placeholder is sent. -/
def placeKey (k : Nat) : String := .ofList (placeholderName k)

/-- Placeholders with different numbers have different names. -/
theorem placeKey_injective : Function.Injective placeKey := by
  intro j k hsame
  have hdigits : decimalDigits j = decimalDigits k := by
    have hnames := String.ofList_injective hsame
    rw [placeholderName_eq, placeholderName_eq, List.cons.injEq, List.cons.injEq] at hnames
    exact hnames.2.2
  rw [← digitsValue_decimalDigits j, hdigits, digitsValue_decimalDigits]

/-- Values are bound to the names of the first placeholders. -/
theorem keys_boundEntries (values : List Value) :
    (boundEntries values).map Prod.fst = (List.range values.length).map placeKey := by
  have hnames : (boundEntries values).map Prod.fst =
      ((TextQuery.numbered 0 values).map (·.1)).map fun i => .ofList (placeholderName i) := by
    rw [boundEntries, List.map_map, List.map_map]
    rfl
  rw [hnames, TextQuery.positions_numbered, List.map_map, List.range_eq_range']
  rfl

/-- Values that are numbered have their positions. -/
theorem mem_numbered (start : Nat) {values : List Value} {k : Nat} {value : Value}
    (h : values[k]? = some value) :
    (((start + k : Nat) : Int), value) ∈ TextQuery.numbered start values := by
  induction values generalizing start k with
  | nil => cases h
  | cons first values ih =>
      rw [TextQuery.numbered]
      cases k with
      | zero =>
          cases h
          exact List.mem_cons_self
      | succ k =>
          apply List.mem_cons_of_mem
          rw [Nat.add_comm k 1, ← Nat.add_assoc]
          exact ih (start + 1) h

/-- The names of a slice are not those of placeholders. -/
theorem not_prefix_sliceEntries {offset limit : Option Amount} {name : String}
    (h : name ∈ (sliceEntries offset limit).map Prod.fst) : ¬['_', 'p'] <+: name.toList := by
  have hnames : ∀ name ∈ ["_limit", "_offset"], ¬['_', 'p'] <+: name.toList := by decide
  cases limit with
  | none => cases h
  | some limit => exact hnames name h

/-- The names of placeholders start alike. -/
theorem prefix_placeKey (k : Nat) : ['_', 'p'] <+: (placeKey k).toList := by
  rw [placeKey, String.toList_ofList]
  exact ⟨decimalDigits k, rfl⟩

/-- The values of a statement and of its slice have different names. -/
theorem keys_distinct (values : List Value) (offset limit : Option Amount) :
    ((boundEntries values ++ sliceEntries offset limit).map Prod.fst).Nodup := by
  rw [List.map_append, keys_boundEntries]
  refine List.Nodup.append (List.nodup_range.map placeKey_injective) ?_ ?_
  · cases limit with
    | none => exact List.nodup_nil
    | some limit =>
        change ["_limit", "_offset"].Nodup
        decide
  · intro name hplace hslice
    obtain ⟨k, -, rfl⟩ := List.mem_map.1 hplace
    exact not_prefix_sliceEntries hslice (prefix_placeKey k)

/-- The query of a text with values bound by position and a slice. -/
def slicedQuery (text : String) (values : List Value) (offset limit : Option Amount) :
    TextQuery :=
  { TextQuery.bindAll text values [] with offset := offset, limit := limit }

/-- An offset that leaves out rows, without a limit. -/
def IsLoneOffset (offset limit : Option Amount) : Prop :=
  limit = none ∧ ∃ amount, offset = some amount ∧ amount.isZero = false

/-- An offset without a limit makes no statement. -/
theorem ofTextQuery_loneOffset {offset limit : Option Amount} (h : IsLoneOffset offset limit)
    (text : String) (values : List Value) :
    ∃ failure : Failure, failure.isInvalidArgument = true ∧
      Statement.ofTextQuery (slicedQuery text values offset limit) = .error failure := by
  obtain ⟨rfl, amount, rfl, hzero⟩ := h
  refine ⟨_, ?_, if_pos ?_⟩
  · rfl
  · change (!amount.isZero) = true
    rw [hzero]
    rfl

/-- The statement of a text with values bound by position. -/
theorem ofTextQuery_sliced {offset limit : Option Amount} (h : ¬IsLoneOffset offset limit)
    (text : String) (values : List Value) :
    Statement.ofTextQuery (slicedQuery text values offset limit) =
      .ok ⟨.ofList (numberPlaceholders 0 (slicedText limit text.toList)),
        boundEntries values ++ sliceEntries offset limit⟩ := by
  have hparams : statementParams (slicedQuery text values offset limit) = boundEntries values :=
    rfl
  have hput := putEntries_of_nodup (keys_distinct values offset limit)
  cases limit with
  | none =>
      have hzero : (offset.any fun amount => !amount.isZero) = false := by
        cases offset with
        | none => rfl
        | some amount =>
            rw [Option.any_some, Bool.not_eq_false']
            by_contra hzero
            exact h ⟨rfl, amount, rfl, Bool.eq_false_iff.2 hzero⟩
      refine (if_neg ?_).trans ?_
      · rw [Bool.not_eq_true]
        exact hzero
      · exact congrArg (fun params => Except.ok (Statement.mk _ params))
          (List.append_nil _).symm
  | some limit =>
      rw [ofTextQuery_limited rfl, hparams, ← slicedText_numberPlaceholders]
      exact congrArg (fun params => Except.ok (Statement.mk _ params)) hput

/-- What a statement binds of a text, of values by position, and of a slice. -/
structure BindsInOrder (text : String) (values : List Value) (offset limit : Option Amount)
    (s : Statement) : Prop where
  /-- No question mark is left. -/
  unmarked : '?' ∉ s.sql.toList
  /-- There is one name for each question mark, numbered in the order of the text. -/
  names : boundNames s.sql.toList = (List.range (placeholders text)).map namedPlace
  /-- Question marks in the places of the names give the text back. -/
  restored : withMarks s.sql.toList = slicedText limit text.toList
  /-- A value is sent under the name that stands in the place of its question mark. -/
  landed : ∀ k value, values[k]? = some value →
    (boundNames s.sql.toList)[k]? = some (namedPlace k) ∧
      s.params.lookup (placeKey k) = some value
  /-- No other value is sent under the name of a placeholder. -/
  others : ∀ name ∈ s.params.map Prod.fst, ['_', 'p'] <+: name.toList →
    ∃ k < values.length, name = placeKey k
  /-- The limit is sent when there is one. -/
  limited : s.params.lookup "_limit" = limit.map Amount.toValue
  /-- The offset is sent with a limit. -/
  offset : s.params.lookup "_offset" = limit.map fun _ => sentOffset offset

/-- The statement of a text with free question marks binds its values in order. -/
theorem bindsInOrder {text : String} {values : List Value} (hmarks : HasFreeMarks text.toList)
    (hbound : values.length ≤ placeholders text) (offset limit : Option Amount) :
    BindsInOrder text values offset limit
      ⟨.ofList (numberPlaceholders 0 (slicedText limit text.toList)),
        boundEntries values ++ sliceEntries offset limit⟩ := by
  have hparts := statementParts_numberPlaceholders (hmarks.sliced limit) 0
  have hnames : boundNames (numberPlaceholders 0 (slicedText limit text.toList)) =
      (List.range (placeholders text)).map namedPlace := by
    rw [boundNames, hparts, names_numberedParts, count_slicedText, List.range_eq_range']
    rfl
  have hunsent : ∀ name, ¬['_', 'p'] <+: name.toList →
      (boundEntries values ++ sliceEntries offset limit).lookup name =
        (sliceEntries offset limit).lookup name := by
    intro name hname
    have hnone : (boundEntries values).lookup name = none := by
      rw [List.lookup_eq_none_iff]
      intro entry hentry
      have hkey : entry.1 ∈ (boundEntries values).map Prod.fst := List.mem_map_of_mem hentry
      rw [keys_boundEntries] at hkey
      obtain ⟨k, -, hk⟩ := List.mem_map.1 hkey
      rw [← hk, bne_iff_ne]
      rintro rfl
      exact hname (prefix_placeKey k)
    rw [List.lookup_append, hnone, Option.none_or]
  constructor
  · rw [String.toList_ofList]
    exact not_mem_numberPlaceholders 0 _
  · rw [String.toList_ofList]
    exact hnames
  · rw [String.toList_ofList, withMarks, hparts, marked_numberedParts]
  · intro k value hvalue
    have hk : k < values.length := (List.getElem?_eq_some_iff.1 hvalue).1
    constructor
    · rw [String.toList_ofList, hnames, List.getElem?_map,
        List.getElem?_range (Nat.lt_of_lt_of_le hk hbound)]
      rfl
    · have hmem : (placeKey k, value) ∈ boundEntries values := by
        have hnumbered := mem_numbered 0 hvalue
        rw [Nat.zero_add] at hnumbered
        exact List.mem_map_of_mem hnumbered
      exact Value.lookup_of_mem (keys_distinct values offset limit) (List.mem_append_left _ hmem)
  · intro name hname hprefix
    rw [List.map_append, List.mem_append, keys_boundEntries] at hname
    rcases hname with hplace | hslice
    · obtain ⟨k, hk, rfl⟩ := List.mem_map.1 hplace
      exact ⟨k, List.mem_range.1 hk, rfl⟩
    · exact absurd hprefix (not_prefix_sliceEntries hslice)
  · refine (hunsent "_limit" (by decide)).trans ?_
    cases limit with
    | none => rfl
    | some limit => rfl
  · refine (hunsent "_offset" (by decide)).trans ?_
    cases limit with
    | none => rfl
    | some limit => rfl

/-! ## What reaches the database -/

/-- A text that changes rows sends its statement, whatever the answer is. -/
theorem execute_sent {q : TextQuery} {s : Statement}
    (hs : Statement.ofTextQuery q = .ok s) (w : World Database) :
    ((execute q).run w).2.store.sent = w.store.sent ++ [s] := by
  have hstate : ((execute q).run w).2 = ((sendText q).run w).2 :=
    run_bind_state (fun reply => run_bind_state fun _ _ => rfl) w
  rw [hstate, sendText_sent hs]

/-- A text that makes no statement sends nothing. -/
theorem sendText_failed {q : TextQuery} {failure : Failure}
    (hq : Statement.ofTextQuery q = .error failure) (w : World Database) :
    (sendText q).run w = (.error failure, w) := by
  rw [sendText, hq]
  rfl

/-- Values bound by position reach the database under the names of their own placeholders:
rows are fetched with one statement, or changed with one, that binds the values in order.
With an offset but without a limit both fail, and nothing is sent. -/
theorem positional_sent (entity : String) {text : String} {values : List Value}
    (hmarks : HasFreeMarks text.toList) (hbound : checkBindings text values [] = .ok ())
    (offset limit : Option Amount) (w : World Database) :
    (createTextQuery ⟨backend, entity⟩ text values []).run w =
        (.ok (.bindAll text values []), w) ∧
      (IsLoneOffset offset limit → ∃ failure : Failure, failure.isInvalidArgument = true ∧
        Statement.ofTextQuery (slicedQuery text values offset limit) = .error failure ∧
        (fetchText (slicedQuery text values offset limit)).run w = (.error failure, w) ∧
        (execute (slicedQuery text values offset limit)).run w = (.error failure, w)) ∧
      (¬IsLoneOffset offset limit → ∃ s,
        Statement.ofTextQuery (slicedQuery text values offset limit) = .ok s ∧
        BindsInOrder text values offset limit s ∧
        ((fetchText (slicedQuery text values offset limit)).run w).2.store.sent =
          w.store.sent ++ [s] ∧
        ((execute (slicedQuery text values offset limit)).run w).2.store.sent =
          w.store.sent ++ [s]) := by
  have hplaces : values.length ≤ placeholders text := by
    by_contra hmore
    exact (checkBindings_failsIff text values []).not_of_ok hbound (.inr (Nat.not_le.1 hmore))
  refine ⟨?_, ?_, ?_⟩
  · rw [createTextQuery, hbound]
    rfl
  · intro hlone
    obtain ⟨failure, hinvalid, hfail⟩ := ofTextQuery_loneOffset hlone text values
    have hsend := sendText_failed hfail w
    exact ⟨failure, hinvalid, hfail, Action.run_bind_error hsend, Action.run_bind_error hsend⟩
  · intro hlone
    have hs := ofTextQuery_sliced hlone text values
    exact ⟨_, hs, bindsInOrder hmarks hplaces offset limit, fetchText_sent hs w,
      execute_sent hs w⟩

/-- A text with eleven question marks and blanks at its end. -/
def elevenMarks : String := "select a from t where b in (?,?,?,?,?,?,?,?,?,?,?)  "

/-- Its question marks are free: commas and a bracket follow them. -/
theorem hasFreeMarks_elevenMarks : HasFreeMarks elevenMarks.toList := by
  constructor
  · decide
  · intro c hc hmark
    have hfollow : c = ',' ∨ c = ')' := by
      simpa [elevenMarks, List.infix_cons_iff, List.cons_prefix_cons] using hmark
    rcases hfollow with rfl | rfl
    · exact absurd hc (by decide +kernel)
    · exact absurd hc (by decide +kernel)

/-- The number behind nine is sent under a name of its own, and an offset without a limit
sends nothing. -/
theorem positional_sent_elevenMarks :
    (∃ s, ((fetchText (slicedQuery elevenMarks ((List.range 11).map fun k => .int k) none
          (some (.whole 5)))).run ⟨{}, []⟩).2.store.sent = [s] ∧
        (boundNames s.sql.toList)[10]? = some (namedPlace 10) ∧
        s.params.lookup (placeKey 10) = some (.int 10) ∧
        withMarks s.sql.toList = stripEnd elevenMarks.toList ++ limitClause ∧
        s.params.lookup "_offset" = some (.int 0)) ∧
      ((fetchText (slicedQuery elevenMarks ((List.range 11).map fun k => .int k)
          (some (.whole 1)) none)).run ⟨{}, []⟩).2.store.sent = [] := by
  have hbound : checkBindings elevenMarks ((List.range 11).map fun k => .int k) [] = .ok () := rfl
  have hsent := positional_sent "User" hasFreeMarks_elevenMarks hbound
  constructor
  · have hlone : ¬IsLoneOffset none (some (.whole 5)) := fun h => nomatch h.1
    obtain ⟨s, -, hbinds, hfetched, -⟩ := (hsent none (some (.whole 5)) ⟨{}, []⟩).2.2 hlone
    obtain ⟨hname, hvalue⟩ := hbinds.landed 10 (.int 10) rfl
    exact ⟨s, hfetched, hname, hvalue, hbinds.restored, hbinds.offset⟩
  · have hlone : IsLoneOffset (some (.whole 1)) none := ⟨rfl, .whole 1, rfl, rfl⟩
    obtain ⟨failure, -, -, hfetched, -⟩ := (hsent (some (.whole 1)) none ⟨{}, []⟩).2.1 hlone
    rw [hfetched]

end Relational
end PagedQuery
