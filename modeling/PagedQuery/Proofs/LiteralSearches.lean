import PagedQuery.Proofs.TextSearches

/-!
# Searches for signs of patterns

The pattern of a search has the needle in it with every sign escaped.  So a search over a
database finds exactly the texts that have the needle in them, letter by letter; capitals and
small letters of ASCII stand for each other, and every other character, with the signs of
patterns among them, only for itself.

Main results:

- Theorem `sameLetter_iff`: which characters a pattern takes for the same.
- Theorem `foundIn_iff_isPartOf`: what the pattern of a needle without NUL is found in.
- Theorem `selectsLiterally`: which records the condition of a search selects.
- Theorem `find_searchFor_literal`: which records a search over a table finds.
-/

namespace PagedQuery
namespace Relational

open Repository

/-! ## Letters -/

/-- Two characters are the same, or the same letter of ASCII as a capital and a small one. -/
def SameLetter (c d : Char) : Prop :=
  c = d ∨ (c.isAlpha = true ∧ d.isAlpha = true ∧ c.toLower = d.toLower)

/-- The letters of ASCII by their code points. -/
theorem isAlpha_iff (c : Char) :
    c.isAlpha = true ↔ (65 ≤ c.toNat ∧ c.toNat ≤ 90) ∨ (97 ≤ c.toNat ∧ c.toNat ≤ 122) := by
  rw [Char.isAlpha, Bool.or_eq_true, Char.isUpper, Char.isLower, decide_eq_true_eq,
    Bool.and_eq_true, decide_eq_true_eq, decide_eq_true_eq]
  rfl

/-- The code point of a small letter is 32 behind that of its capital. -/
theorem toNat_toLower (c : Char) :
    c.toLower.toNat = if 65 ≤ c.toNat ∧ c.toNat ≤ 90 then c.toNat + 32 else c.toNat := by
  have hcapital : (c.val ≥ 'A'.val ∧ c.val ≤ 'Z'.val) ↔ 65 ≤ c.toNat ∧ c.toNat ≤ 90 := Iff.rfl
  rw [Char.toLower]
  split
  · rename_i h
    rw [hcapital] at h
    rw [if_pos h]
    change (c.val + 32).toNat = c.toNat + 32
    rw [UInt32.toNat_add]
    exact Nat.mod_eq_of_lt (show c.toNat + 32 < 2 ^ 32 by omega)
  · rename_i h
    rw [if_neg (mt hcapital.2 h)]

/-- Capitals are folded to their small letters. -/
theorem foldAscii_eq_toLower (c : Char) : foldAscii c = c.toLower := by
  have hcapital : ('A' ≤ c && c ≤ 'Z') = true ↔ 65 ≤ c.toNat ∧ c.toNat ≤ 90 := by
    rw [Bool.and_eq_true, decide_eq_true_eq, decide_eq_true_eq]
    rfl
  rw [← Char.toNat_inj, toNat_toLower, foldAscii]
  split
  · rename_i h
    rw [hcapital] at h
    have hvalid : (c.toNat + 32).isValidChar := .inl (by omega)
    rw [if_pos h, Char.ofNat, dif_pos hvalid]
    rfl
  · rename_i h
    rw [if_neg (mt hcapital.2 h)]

/-- A pattern takes two characters for the same when they are the same letter. -/
theorem sameLetter_iff (c d : Char) : foldAscii c = foldAscii d ↔ SameLetter c d := by
  rw [foldAscii_eq_toLower, foldAscii_eq_toLower, SameLetter]
  constructor
  · intro hsame
    have hcodes := congrArg Char.toNat hsame
    rw [toNat_toLower, toNat_toLower] at hcodes
    by_cases heq : c.toNat = d.toNat
    · exact .inl (Char.toNat_inj.1 heq)
    · refine .inr ⟨(isAlpha_iff c).2 ?_, (isAlpha_iff d).2 ?_, hsame⟩
      · split at hcodes <;> split at hcodes <;> omega
      · split at hcodes <;> split at hcodes <;> omega
  · rintro (rfl | ⟨-, -, hsame⟩)
    · rfl
    · exact hsame

/-- What is no letter stands only for itself. -/
theorem SameLetter.eq_of_not_alpha {c d : Char} (h : SameLetter c d)
    (hd : c.isAlpha = false ∨ d.isAlpha = false) : c = d := by
  rcases h with h | ⟨hc, hd', -⟩
  · exact h
  · rw [hc, hd'] at hd
    simp at hd

/-! ## Parts of texts -/

/-- The signs of patterns. -/
def patternSigns : List Char := [escapeSign, '%', '_']

/-- No sign of a pattern is a letter. -/
theorem isAlpha_patternSigns : ∀ sign ∈ patternSigns, sign.isAlpha = false := by
  simp only [patternSigns, List.forall_mem_cons]
  exact ⟨rfl, rfl, rfl, List.forall_mem_nil _⟩

/-- A part of a text reads as a needle: the letters are the same one by one, and the signs of
patterns are at the same places. -/
structure ReadsAs (part needle : List Char) : Prop where
  letters : List.Forall₂ SameLetter part needle
  signs : ∀ sign ∈ patternSigns, ∀ i : Nat, part[i]? = some sign ↔ needle[i]? = some sign

/-- The needle is read in some part of the text. -/
def IsPartOf (needle hay : List Char) : Prop :=
  ∃ before part after, hay = before ++ part ++ after ∧ ReadsAs part needle

/-- Where letters are the same one by one, the other characters are at the same places. -/
theorem getElem?_of_sameLetters {part needle : List Char}
    (h : List.Forall₂ SameLetter part needle) {sign : Char} (hsign : sign.isAlpha = false)
    (i : Nat) : part[i]? = some sign ↔ needle[i]? = some sign := by
  induction h generalizing i with
  | nil => rfl
  | @cons c d part needle hfirst _ ih =>
      cases i with
      | zero =>
          rw [List.getElem?_cons_zero, List.getElem?_cons_zero, Option.some.injEq,
            Option.some.injEq]
          constructor
          · rintro rfl
            exact (hfirst.eq_of_not_alpha (.inl hsign)).symm
          · rintro rfl
            exact hfirst.eq_of_not_alpha (.inr hsign)
      | succ i => exact ih i

/-- A part is folded to the same as a needle when it reads as the needle. -/
theorem readsAs_iff (part needle : List Char) :
    ReadsAs part needle ↔ part.map foldAscii = needle.map foldAscii := by
  have hletters : part.map foldAscii = needle.map foldAscii ↔
      List.Forall₂ SameLetter part needle := by
    rw [← List.forall₂_eq_eq_eq, List.forall₂_map_left_iff, List.forall₂_map_right_iff]
    simp only [sameLetter_iff]
  rw [hletters]
  constructor
  · exact ReadsAs.letters
  · intro h
    exact ⟨h, fun sign hsign => getElem?_of_sameLetters h (isAlpha_patternSigns sign hsign)⟩

/-- The pattern of a needle without NUL is found where the needle is read. -/
theorem foundIn_iff_isPartOf {needle : List Char} (hnul : '\x00' ∉ needle) (hay : List Char) :
    FoundIn needle hay ↔ IsPartOf needle hay := by
  simp only [FoundIn, IsPartOf, readsAs_iff, beforeNul_of_not_mem hnul, hnul, false_implies,
    and_true]

/-- A needle without letters is read as it is written only. -/
theorem isPartOf_iff_infix {needle : List Char} (h : ∀ d ∈ needle, d.isAlpha = false)
    (hay : List Char) : IsPartOf needle hay ↔ needle <:+: hay := by
  constructor
  · rintro ⟨before, part, after, rfl, hreads⟩
    have hsame : part = needle :=
      eq_of_map_foldAscii ((readsAs_iff part needle).1 hreads) fun c _ d hd hletter =>
        ((sameLetter_iff c d).1 hletter).eq_of_not_alpha (.inr (h d hd))
    rw [hsame]
    exact ⟨before, after, rfl⟩
  · rintro ⟨before, after, rfl⟩
    exact ⟨before, needle, after, rfl, (readsAs_iff needle needle).2 rfl⟩

/-- The empty needle is read everywhere. -/
theorem isPartOf_nil (hay : List Char) : IsPartOf [] hay :=
  ⟨[], [], hay, rfl, (readsAs_iff [] []).2 rfl⟩

/-! ## What a search finds -/

/-- A record is selected as its text says: when the needle is read in the text, a needle
without letters as it is written, and the empty needle in every text. -/
structure SelectsLiterally (condition : Condition Cell) (needle : List Char) (r : Record)
    (hay : List Char) : Prop where
  read : condition.selects r = true ↔ IsPartOf needle hay
  written : (∀ d ∈ needle, d.isAlpha = false) →
    (condition.selects r = true ↔ needle <:+: hay)
  empty : needle = [] → condition.selects r = true

variable {e : Engine} {entity id property : String} {t : Table}

/-- The condition of a search selects the records whose texts have the needle in them. -/
theorem selectsLiterally {needle : String} (hneedle : '\x00' ∉ needle.toList) {r : Record}
    {s : String} (hcell : r.cell property = .text s) (hnul : '\x00' ∉ s.toList) :
    SelectsLiterally (searchCondition property needle) needle.toList r s.toList := by
  have hread : (searchCondition property needle).selects r = true ↔
      IsPartOf needle.toList s.toList := by
    rw [selects_searchCondition hcell hnul, foundIn_iff_isPartOf hneedle]
  refine ⟨hread, ?_, ?_⟩
  · intro hletters
    rw [hread, isPartOf_iff_infix hletters]
  · intro hempty
    rw [hread, hempty]
    exact isPartOf_nil s.toList

/-- A search for a needle becomes a condition that selects the records in whose texts the
needle is read, and a search over a table finds these records.  Only a search that the
engine does not take is refused; the embedded one takes all but those with a pattern that is
too long. -/
theorem find_searchFor_literal (htyped : t.IsTyped id) (hpresent : t.schema.present = true)
    (hcolumn : ∃ c, t.schema.column? property = some c) {w : World Database}
    (hserved : Serves e entity t w.store) {needle : String} (hneedle : '\x00' ∉ needle.toList) :
    Condition.ofPredicate t.schema (searchFor property needle) =
        .ok (searchCondition property needle) ∧
      Condition.send (searchCondition property needle) =
        .ok (searchCondition property needle) ∧
      (∀ (r : Record) (s : String), r.cell property = .text s → '\x00' ∉ s.toList →
        SelectsLiterally (searchCondition property needle) needle.toList r s.toList) ∧
      (¬e.TakesQuery t (plainQuery ⟨backend, entity⟩ [searchFor property needle]) → ∃ fault,
        ((find ⟨backend, entity⟩ [searchFor property needle]).run w).1 =
          .error (queryFailed entity fault)) ∧
      (e.TakesQuery t (plainQuery ⟨backend, entity⟩ [searchFor property needle]) →
        ∃ shown records w',
          (find ⟨backend, entity⟩ [searchFor property needle]).run w = (.ok shown, w') ∧
            List.Forall₂ Shows shown records ∧
            ∀ r ∈ t.records, ∀ s, r.cell property = .text s → '\x00' ∉ s.toList →
              (r ∈ records ↔ IsPartOf needle.toList s.toList)) ∧
      (Engine.embedded.TakesQuery t
          (plainQuery ⟨backend, entity⟩ [searchFor property needle]) ↔
        ¬(patternLimit < patternSize needle ∧ t.records ≠ [])) := by
  refine ⟨ofPredicate_searchFor hcolumn needle, rfl, ?_,
    find_searchFor_refused hpresent hcolumn hserved, ?_, embedded_takes_searchFor hcolumn needle⟩
  · intro r s hcell hnul
    exact selectsLiterally hneedle hcell hnul
  · intro htaken
    obtain ⟨shown, records, w', hrun, hshown, hperm⟩ :=
      find_searchFor_table htyped hpresent hcolumn hserved htaken
    refine ⟨shown, records, w', hrun, hshown, ?_⟩
    intro r hr s hcell hnul
    rw [hperm.mem_iff, searched, List.mem_filter, and_iff_right hr]
    exact (selectsLiterally hneedle hcell hnul).read

/-- A user whose name has signs of patterns in it. -/
def percentLow : Record :=
  [("id", .integer 1), ("name", .text "5%_off"), ("login", .text "a"), ("age", .integer 30),
    ("status", .text "active")]

/-- A user whose name would fit the signs if they stood for other characters. -/
def percentOff : Record :=
  [("id", .integer 2), ("name", .text "5%xoff"), ("login", .text "b"), ("age", .integer 30),
    ("status", .text "active")]

/-- The table of users with these two. -/
def percentTable : Table := ⟨userSchema, [percentLow, percentOff]⟩

/-- The table is typed. -/
theorem percentTable_isTyped : percentTable.IsTyped "id" := by
  have htyped : ∀ r ∈ percentTable.records, r.IsTyped userSchema := by
    intro r hr
    apply Record.isTyped_of_columns
    revert r
    decide
  exact ⟨htyped, rfl, ⟨_, rfl⟩, by decide, by decide⟩

/-- A search for signs of patterns and capitals finds the name that has these signs, with
small letters behind them. -/
theorem find_searchFor_literal_percent :
    ∃ shown records w', (find ⟨backend, "User"⟩ [searchFor "name" "%_OFF"]).run
        ⟨{ tables := [percentTable] }, []⟩ = (.ok shown, w') ∧
      List.Forall₂ Shows shown records ∧ percentLow ∈ records ∧ percentOff ∉ records := by
  have hserved : Serves .embedded "User" percentTable { tables := [percentTable] } :=
    ⟨rfl, rfl, rfl, mirrors_of_held_nil rfl⟩
  have hneedle : '\x00' ∉ "%_OFF".toList := by decide
  have hread : ∀ hay : String, '\x00' ∉ hay.toList →
      (IsPartOf "%_OFF".toList hay.toList ↔ likeContains "%_OFF".toList hay.toList = true) := by
    intro hay hnul
    rw [likeContains_iff hnul, foundIn_iff_isPartOf hneedle]
  have hcolumn : ∃ c, percentTable.schema.column? "name" = some c := ⟨_, rfl⟩
  obtain ⟨-, -, -, -, htaken, hshort⟩ := find_searchFor_literal percentTable_isTyped rfl hcolumn
    (w := ⟨{ tables := [percentTable] }, []⟩) hserved hneedle
  obtain ⟨shown, records, w', hrun, hshown, hfound⟩ := htaken (hshort.2 (by decide))
  refine ⟨shown, records, w', hrun, hshown, ?_, ?_⟩
  · rw [hfound percentLow (by decide) "5%_off" rfl (by decide), hread _ (by decide)]
    decide
  · rw [hfound percentOff (by decide) "5%xoff" rfl (by decide), hread _ (by decide)]
    decide

end Relational
end PagedQuery
