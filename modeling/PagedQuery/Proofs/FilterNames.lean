import PagedQuery.Proofs.FilterMeaning

/-!
# Names that are written together

The names of a filter are written with `_OR_` in between and read by cutting at each
`_OR_`, from the left.  The mark overlaps itself by its low line only, so a name is read
back as it was written unless it holds the mark, or ends in `_OR` with a mark behind it.
On such names a filter and its text determine each other.

Main results:

- Theorem `splitNames_eq_iff`: cutting a text gives the only pieces that make it up and
  are cut nowhere else.
- Theorem `parse_eq_ok_iff`: a filter is read exactly from the text that it is written as.
-/

namespace PagedQuery
namespace PropertyFilter

open Text

/-! ## Cutting at the mark -/

/-- The mark between two names. -/
def orMark : List Char := ['_', 'O', 'R', '_']

/-- The mark without its last low line, with which the next mark could overlap. -/
def orEnd : List Char := ['_', 'O', 'R']

/-- A list of pieces that is cut only where two of them meet: no piece holds the mark, and
none that has a mark behind it ends in most of another one. -/
structure AreApart (pieces : List (List Char)) : Prop where
  whole : ∀ piece ∈ pieces, ¬orMark <:+: piece
  ended : ∀ piece ∈ pieces.dropLast, ¬orEnd <:+ piece

/-- Cutting a text at the marks gives these pieces. -/
structure Splits (cs : List Char) (pieces : List (List Char)) : Prop where
  some_piece : pieces ≠ []
  joined : joinNames pieces = cs
  apart : AreApart pieces

/-- Pieces behind the first one are cut only where two of them meet when all are. -/
theorem AreApart.tail {piece next : List Char} {pieces : List (List Char)}
    (h : AreApart (piece :: next :: pieces)) : AreApart (next :: pieces) where
  whole other hother := h.whole other (List.mem_cons_of_mem _ hother)
  ended other hother := h.ended other (by simp [List.dropLast_cons_cons, hother])

/-- A character that starts no mark stands in front of the first piece. -/
theorem splitNames_cons {c : Char} {cs : List Char} (h : ¬orMark <+: c :: cs) :
    splitNames (c :: cs) = consPiece c (splitNames cs) := by
  rw [splitNames]
  rintro rest rfl rfl
  exact h ⟨rest, rfl⟩

/-- A piece without a mark is not cut. -/
theorem splitNames_whole {piece : List Char} (h : ¬orMark <:+: piece) :
    splitNames piece = [piece] := by
  induction piece with
  | nil => rfl
  | cons c piece ih =>
      have hrest : ¬orMark <:+: piece := fun hin => h (List.infix_cons hin)
      rw [splitNames_cons (fun hstart => h hstart.isInfix), ih hrest]
      rfl

/-- A piece that neither holds the mark nor ends in most of it is cut off at the mark
behind it. -/
theorem splitNames_append {piece : List Char} (hwhole : ¬orMark <:+: piece)
    (hended : ¬orEnd <:+ piece) (rest : List Char) :
    splitNames (piece ++ orMark ++ rest) = piece :: splitNames rest := by
  induction piece with
  | nil => rfl
  | cons c piece ih =>
      have hstart : ¬orMark <+: c :: (piece ++ orMark ++ rest) := by
        -- A mark that starts here would lie inside the piece or overlap with the one behind.
        rintro ⟨more, hmore⟩
        match piece, hmore with
        | [], hmore => simp [orMark] at hmore
        | [_], hmore => simp [orMark] at hmore
        | [_, _], hmore =>
            simp only [orMark, List.cons_append, List.nil_append, List.cons.injEq] at hmore
            obtain ⟨rfl, rfl, rfl, -⟩ := hmore
            exact hended (List.suffix_refl orEnd)
        | _ :: _ :: _ :: tail, hmore =>
            simp only [orMark, List.cons_append, List.nil_append, List.cons.injEq] at hmore
            obtain ⟨rfl, rfl, rfl, rfl, -⟩ := hmore
            exact hwhole ⟨[], tail, rfl⟩
      have hrest := ih (fun hin => hwhole (List.infix_cons hin))
        (fun hend => hended (hend.trans (List.suffix_cons c piece)))
      rw [List.cons_append, List.cons_append, splitNames_cons hstart, hrest]
      rfl

/-- Pieces that are cut only where two of them meet are read back from the text that they
make up. -/
theorem splitNames_joinNames {pieces : List (List Char)} (hsome : pieces ≠ [])
    (h : AreApart pieces) : splitNames (joinNames pieces) = pieces := by
  induction pieces with
  | nil => exact absurd rfl hsome
  | cons piece pieces ih =>
      cases pieces with
      | nil => exact splitNames_whole (h.whole piece List.mem_cons_self)
      | cons next pieces =>
          have hjoin : joinNames (piece :: next :: pieces) =
              piece ++ orMark ++ joinNames (next :: pieces) := rfl
          rw [hjoin, splitNames_append (h.whole piece List.mem_cons_self)
            (h.ended piece List.mem_cons_self), ih (List.cons_ne_nil _ _) h.tail]

/-- A text starts with its first piece. -/
theorem prefix_joinNames (piece : List Char) (pieces : List (List Char)) :
    piece <+: joinNames (piece :: pieces) := by
  cases pieces with
  | nil => exact List.prefix_refl piece
  | cons next pieces =>
      exact ⟨orMark ++ joinNames (next :: pieces), (List.append_assoc _ _ _).symm⟩

/-- A character that starts no mark leaves the pieces cut only where two of them meet. -/
theorem AreApart.cons {c : Char} {piece : List Char} {pieces : List (List Char)}
    (h : AreApart (piece :: pieces)) (hstart : ¬orMark <+: c :: joinNames (piece :: pieces)) :
    AreApart ((c :: piece) :: pieces) := by
  constructor
  · refine List.forall_mem_cons.2 ⟨?_, (List.forall_mem_cons.1 h.whole).2⟩
    intro hin
    rcases List.infix_cons_iff.1 hin with hfirst | hrest
    · apply hstart
      exact hfirst.trans (List.cons_prefix_cons.2 ⟨rfl, prefix_joinNames piece pieces⟩)
    · exact h.whole piece List.mem_cons_self hrest
  · cases pieces with
    | nil => exact List.forall_mem_nil _
    | cons next pieces =>
        refine List.forall_mem_cons.2 ⟨?_, (List.forall_mem_cons.1 h.ended).2⟩
        intro hend
        rcases List.suffix_cons_iff.1 hend with hall | hrest
        · -- The piece would be most of a mark, and the mark behind it gives the rest.
          obtain ⟨rfl, rfl⟩ := List.cons.inj hall
          exact hstart ⟨'O' :: 'R' :: '_' :: joinNames (next :: pieces), rfl⟩
        · exact h.ended piece List.mem_cons_self hrest

/-- The pieces of a text are cut only where two of them meet. -/
theorem areApart_splitNames (cs : List Char) : AreApart (splitNames cs) := by
  fun_induction splitNames cs with
  | case1 => exact ⟨by simp [orMark], by simp⟩
  | case2 rest ih =>
      constructor
      · exact List.forall_mem_cons.2 ⟨by simp [orMark], ih.whole⟩
      · rw [List.dropLast_cons_of_ne_nil (splitNames_ne_nil rest)]
        exact List.forall_mem_cons.2 ⟨by simp [orEnd], ih.ended⟩
  | case3 c rest hother ih =>
      have hstart : ¬orMark <+: c :: rest := by
        rintro ⟨more, hmore⟩
        obtain ⟨hc, hrest⟩ := List.cons.inj hmore
        exact hother more hc.symm hrest.symm
      rw [← joinNames_splitNames rest] at hstart
      rcases hpieces : splitNames rest with _ | ⟨piece, pieces⟩
      · exact absurd hpieces (splitNames_ne_nil rest)
      · rw [hpieces] at ih hstart
        exact ih.cons hstart

/-- Cutting a text gives the only pieces that make it up and are cut nowhere else. -/
theorem splitNames_eq_iff {cs : List Char} {pieces : List (List Char)} :
    splitNames cs = pieces ↔ Splits cs pieces := by
  constructor
  · rintro rfl
    exact ⟨splitNames_ne_nil cs, joinNames_splitNames cs, areApart_splitNames cs⟩
  · rintro ⟨hsome, rfl, hapart⟩
    exact splitNames_joinNames hsome hapart

/-! ## The parts of a filter's text -/

/-- What stands before the first low line, all of it when there is none. -/
def beforeLine (cs : List Char) : List Char := cs.takeWhile (· != '_')

/-- What stands behind the first low line, nothing when there is none. -/
def behindLine (cs : List Char) : List Char := (cs.dropWhile (· != '_')).drop 1

/-- The part of a filter's text where the name of its match type is expected. -/
def matchToken (spec : String) : String := .ofList (beforeLine spec.toList)

/-- The part where the letter of its property type is expected. -/
def typeToken (spec : String) : String := .ofList (beforeLine (behindLine spec.toList))

/-- The part where its names are expected. -/
def namesPart (spec : String) : List Char := behindLine (behindLine spec.toList)

/-- The text names a match type and a property type. -/
structure Typed (spec : String) (m : MatchType) (t : PropertyType) : Prop where
  matchName : m.name = matchToken spec
  typeLetter : t.letter = typeToken spec

/-- The text names properties: none of the pieces of its last part is empty. -/
structure Named (spec : String) (pieces : List (List Char)) : Prop where
  splits : Splits (namesPart spec) pieces
  nonempty : [] ∉ pieces

/-- No piece is found to be empty. -/
theorem Named.any_isEmpty {spec : String} {pieces : List (List Char)} (h : Named spec pieces) :
    pieces.any (·.isEmpty) = false := by
  rw [List.any_eq_false]
  intro piece hpiece hnil
  exact h.nonempty (List.isEmpty_iff.1 hnil ▸ hpiece)

/-- The text is that of a filter, which has the types and the names that the text names and
the value that the raw value stands for. -/
structure Accepts (spec : String) (raw : Option String) (f : PropertyFilter) : Prop where
  typed : Typed spec f.matchType f.propertyType
  named : Named spec (f.names.map String.toList)
  value : ∃ text, raw = some text ∧ f.propertyType.coerce text = .ok f.value

/-- A text is cut at its first low line. -/
theorem cutAt_lowLine (cs : List Char) : cutAt '_' cs = (beforeLine cs, behindLine cs) := by
  induction cs with
  | nil => rfl
  | cons c cs ih =>
      by_cases hc : c = '_'
      · subst hc
        rfl
      · simp only [cutAt, beforeLine, behindLine] at ih ⊢
        simp [hc, ih]

/-- What stands before a low line, as long as it has none itself, and what stands behind
it. -/
theorem beforeLine_append {part : List Char} (h : '_' ∉ part) (rest : List Char) :
    beforeLine (part ++ '_' :: rest) = part ∧ behindLine (part ++ '_' :: rest) = rest := by
  have hpart : ∀ c ∈ part, (c != '_') = true := fun c hc => bne_iff_ne.2 fun he => h (he ▸ hc)
  constructor
  · rw [beforeLine, List.takeWhile_append_of_pos hpart]
    simp
  · rw [behindLine, List.dropWhile_append_of_pos hpart]
    simp

/-- Pieces are kept as texts. -/
theorem map_toList_ofList (pieces : List (List Char)) :
    (pieces.map String.ofList).map String.toList = pieces := by
  rw [List.map_map]
  exact (List.map_congr_left fun _ _ => String.toList_ofList).trans (List.map_id pieces)

/-- Names are kept as pieces. -/
theorem map_ofList_toList (names : List String) :
    (names.map String.toList).map String.ofList = names := by
  rw [List.map_map]
  exact (List.map_congr_left fun _ _ => String.ofList_toList).trans (List.map_id names)

/-- A match type is found exactly under its name. -/
theorem ofName?_eq_some_iff {token : String} {m : MatchType} :
    MatchType.ofName? token = some m ↔ m.name = token := by
  constructor
  · exact matchType_name
  · rintro rfl
    exact MatchType.ofName?_name m

/-- A property type is found exactly under its letter. -/
theorem ofLetter?_eq_some_iff {token : String} {t : PropertyType} :
    PropertyType.ofLetter? token = some t ↔ t.letter = token := by
  constructor
  · exact propertyType_letter
  · rintro rfl
    exact PropertyType.ofLetter?_letter t

/-- A text that names a match type and a property type is read on from its names: one of
them is empty, or else the value decides. -/
theorem parse_typed {spec : String} {m : MatchType} {t : PropertyType}
    {pieces : List (List Char)} (htyped : Typed spec m t)
    (hsplits : Splits (namesPart spec) pieces) (raw : Option String) :
    parse spec raw =
      if pieces.any (·.isEmpty) then .error (.propertyName spec (.ofList (namesPart spec)))
      else (readValue spec t raw).map fun value =>
        ⟨m, t, pieces.map .ofList, value, by simpa using hsplits.some_piece⟩ := by
  have hname := ofName?_eq_some_iff.2 htyped.matchName
  have hletter := ofLetter?_eq_some_iff.2 htyped.typeLetter
  obtain rfl := splitNames_eq_iff.2 hsplits
  simp only [matchToken, typeToken, namesPart] at hname hletter ⊢
  simp only [parse, cutAt_lowLine, hname, hletter]
  refine if_congr Iff.rfl rfl ?_
  cases readValue spec t raw <;> rfl

/-- A text that has the parts of a filter is read as that filter. -/
theorem parse_of_accepts {spec : String} {raw : Option String} {f : PropertyFilter}
    (h : Accepts spec raw f) : parse spec raw = .ok f := by
  obtain ⟨text, rfl, hvalue⟩ := h.value
  simp only [parse_typed h.typed h.named.splits, h.named.any_isEmpty, Bool.false_eq_true,
    if_false, readValue, hvalue, map_ofList_toList]
  rfl

/-! ## Reading what was written -/

/-- The name of a match type has no low line. -/
theorem lowLine_not_mem_name (m : MatchType) : '_' ∉ m.name.toList := by
  cases m <;> decide

/-- The letter of a property type is no low line. -/
theorem lowLine_not_mem_letter (t : PropertyType) : '_' ∉ t.letter.toList := by
  cases t <;> decide

/-- A filter is written as three parts with low lines in between. -/
theorem toList_spec (f : PropertyFilter) :
    f.spec.toList = f.matchType.name.toList ++
      '_' :: (f.propertyType.letter.toList ++ '_' :: joinNames (f.names.map String.toList)) := by
  simp only [spec, String.toList_append, toList_joinTexts, List.append_assoc]
  rfl

/-- The text that a filter is written as names its types, and then its names. -/
theorem typed_spec (f : PropertyFilter) : Typed f.spec f.matchType f.propertyType ∧
    namesPart f.spec = joinNames (f.names.map String.toList) := by
  have hfirst := beforeLine_append (lowLine_not_mem_name f.matchType)
    (f.propertyType.letter.toList ++ '_' :: joinNames (f.names.map String.toList))
  have hsecond := beforeLine_append (lowLine_not_mem_letter f.propertyType)
    (joinNames (f.names.map String.toList))
  refine ⟨⟨?_, ?_⟩, ?_⟩
  · rw [matchToken, toList_spec, hfirst.1, String.ofList_toList]
  · rw [typeToken, toList_spec, hfirst.2, hsecond.1, String.ofList_toList]
  · rw [namesPart, toList_spec, hfirst.2, hsecond.2]

/-- A filter is read from the text that it is written as, provided that its names are read
back and its value is what the raw value stands for. -/
theorem parse_spec {f : PropertyFilter} {text : String} (hnamed : ∀ name ∈ f.names, name ≠ "")
    (hapart : AreApart (f.names.map String.toList))
    (hvalue : f.propertyType.coerce text = .ok f.value) :
    parse f.spec (some text) = .ok f := by
  have hsplits : Splits (namesPart f.spec) (f.names.map String.toList) :=
    ⟨by simpa using f.names_ne_nil, (typed_spec f).2.symm, hapart⟩
  have hnonempty : [] ∉ f.names.map String.toList := by
    simpa using fun hnil => hnamed "" hnil rfl
  exact parse_of_accepts ⟨(typed_spec f).1, ⟨hsplits, hnonempty⟩, text, rfl, hvalue⟩

/-- A filter is read from exactly one text, the one that it is written as.  What is read,
written out again, is the text that it was read from; and what is written is read back, as
long as no name is empty or holds the mark between two names, no name but the last ends in
most of the mark, and the value is what the raw value stands for. -/
theorem parse_eq_ok_iff {spec : String} {raw : Option String} {f : PropertyFilter} :
    parse spec raw = .ok f ↔
      f.spec = spec ∧ (∀ name ∈ f.names, name ≠ "") ∧ AreApart (f.names.map String.toList) ∧
        ∃ text, raw = some text ∧ f.propertyType.coerce text = .ok f.value := by
  constructor
  · intro h
    obtain ⟨htext, hnamed, hvalue⟩ := parse_reads h
    obtain ⟨-, -, hnames, -, -⟩ := parse_ok h
    refine ⟨htext, hnamed, ?_, hvalue⟩
    rw [hnames, map_toList_ofList]
    exact areApart_splitNames _
  · rintro ⟨rfl, hnamed, hapart, text, rfl, hvalue⟩
    exact parse_spec hnamed hapart hvalue

/-- A name that ends in most of the mark takes the low line of the mark behind it. -/
example : splitNames "a_OR_OR_b".toList = ["a".toList, "OR_b".toList] := by decide

end PropertyFilter
end PagedQuery
