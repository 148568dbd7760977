import PagedQuery.Proofs.JsonReading
import PagedQuery.Proofs.PutEntries
import PagedQuery.Proofs.WrittenScalars
import PagedQuery.Value.Json

/-!
# Values that are read from their JSON texts

What is written as JSON is read back by the grammar of JSON, wherever it stands: every character
of a string under its escape, every whole number from its numeral, the items of sequences and the
entries of mappings at any depth.  Only a tuple comes out as a list, and a date as its text.

Main results:

- Theorem `readText_escaped`: a text is read from its string.
- Theorem `readScalar?_intChars`: a whole number is read from its numeral.
- Theorem `readValue_json`: a value is read from its text, whatever stands behind it.
- Theorem `readJson?_json`: the JSON text of a value stands for the value.
-/

namespace PagedQuery
namespace Json

open Coercion Numeric Text

/-! ## Strings -/

/-- The ways in which a character is written inside a string: by a letter behind a backslash,
by its number, or as it is. -/
inductive IsEscape (c : Char) : List Char → Prop
  | letter {sign : Char} (h : escaped? sign = some c) : IsEscape c ['\\', sign]
  | number (h : c.toNat < 32) : IsEscape c ('\\' :: 'u' :: hexDigits 4 c.toNat)
  | plain (h : 32 ≤ c.toNat) (hquote : c ≠ '"') (hslash : c ≠ '\\') : IsEscape c [c]

/-- Every character is written in one of these ways. -/
theorem isEscape_escapeJsonChar (c : Char) : IsEscape c (escapeJsonChar c) := by
  have hof : ∀ n, c.toNat = n → c = .ofNat n := by
    rintro _ rfl
    exact (Char.ofNat_toNat c).symm
  rw [escapeJsonChar]
  split
  · rename_i h
    rcases (by simpa using h : c = '"' ∨ c = '\\') with rfl | rfl <;> exact .letter rfl
  rename_i hplain
  split
  · rename_i h
    exact .letter (by rw [beq_iff_eq.1 h]; rfl)
  split
  · rename_i h
    exact .letter (by rw [beq_iff_eq.1 h]; rfl)
  split
  · rename_i h
    exact .letter (by rw [beq_iff_eq.1 h]; rfl)
  split
  · rename_i h
    exact .letter (by rw [hof _ (beq_iff_eq.1 h)]; rfl)
  split
  · rename_i h
    exact .letter (by rw [hof _ (beq_iff_eq.1 h)]; rfl)
  split
  · rename_i h
    exact .number h
  · rename_i h
    simp only [Bool.or_eq_true, beq_iff_eq, not_or] at hplain
    exact .plain (Nat.le_of_not_lt h) hplain.1 hplain.2

/-- A character that is written in one of these ways is read as a letter that stands for it. -/
theorem exists_letter {c : Char} {written : List Char} (h : IsEscape c written) :
    ∃ letter, (∀ rest, readLetters (written ++ rest) = made (letter :: ·) (readLetters rest)) ∧
      ∀ letters, spell? (letter :: letters) = (spell? letters).map (c :: ·) := by
  cases h with
  | @letter sign h =>
      refine ⟨.itself c, fun rest => ?_, fun _ => rfl⟩
      have hsign : sign ≠ 'u' := by
        rintro rfl
        cases h
      have hread : readLetters ('\\' :: sign :: rest) =
          (escaped? sign).bind fun c => made (.itself c :: ·) (readLetters rest) := by
        rw [readLetters]
        rintro _ _ _ _ _ rfl
        exact absurd rfl hsign
      rw [List.cons_append, List.cons_append, List.nil_append, hread, h]
      rfl
  | number h =>
      have hnumber : ∀ n < 32, hexNumber? (hexDigits 4 n) = some n ∧ isHalf n = false := by decide
      refine ⟨.unit c.toNat, fun rest => ?_, fun letters => ?_⟩
      · have hread : readLetters ('\\' :: 'u' :: hexDigits 4 c.toNat ++ rest) =
            (hexNumber? (hexDigits 4 c.toNat)).bind fun n =>
              made (.unit n :: ·) (readLetters rest) := rfl
        rw [hread, (hnumber _ h).1]
        rfl
      · rw [spell?.eq_def]
        simp only [(hnumber _ h).2, Bool.false_eq_true, if_false, Char.ofNat_toNat]
  | plain h hquote hslash =>
      refine ⟨.itself c, fun rest => ?_, fun _ => rfl⟩
      have hread : readLetters (c :: rest) =
          if c == '\\' || c.toNat < 32 then none else made (.itself c :: ·) (readLetters rest) := by
        rw [readLetters]
        · exact hquote
        · rintro _ _ _ _ _ rfl
          exact absurd rfl hslash
        · rintro _ _ rfl
          exact absurd rfl hslash
      have hkept : ¬(c == '\\' || c.toNat < 32) = true := by
        simpa [hslash] using h
      rw [List.singleton_append, hread, if_neg hkept]

/-- A text is read from its written form, up to the closing quote. -/
theorem readText_escaped (cs rest : List Char) :
    readText (cs.flatMap escapeJsonChar ++ '"' :: rest) = some (.ofList cs, rest) := by
  have hletters : ∃ letters, readLetters (cs.flatMap escapeJsonChar ++ '"' :: rest) =
      some (letters, rest) ∧ spell? letters = some cs := by
    induction cs with
    | nil => exact ⟨[], rfl, rfl⟩
    | cons c cs ih =>
        obtain ⟨letters, hread, hspell⟩ := ih
        obtain ⟨letter, hfirst, hstands⟩ := exists_letter (isEscape_escapeJsonChar c)
        refine ⟨letter :: letters, ?_, ?_⟩
        · rw [List.flatMap_cons, List.append_assoc, hfirst, hread]
          rfl
        · rw [hstands, hspell]
          rfl
  obtain ⟨letters, hread, hspell⟩ := hletters
  simp only [readText, hread, Option.bind_some, hspell, Option.map_some]

/-! ## Numbers and words -/

/-- What stands behind a number or a word does not continue it. -/
def Ends (rest : List Char) : Prop := ∀ c ∈ rest.head?, isScalarChar c = false

/-- A character of a number or a word is no blank, and opens nothing else. -/
theorem isScalarChar_facts {c : Char} (h : isScalarChar c = true) :
    isGap c = false ∧ c ≠ '"' ∧ c ≠ '[' ∧ c ≠ '\x7b' := by
  have hother : ∀ d, isScalarChar d = false → c ≠ d := by
    rintro d hd rfl
    rw [hd] at h
    cases h
  refine ⟨?_, hother _ rfl, hother _ rfl, hother _ rfl⟩
  simp only [isGap, Bool.or_eq_false_iff, beq_eq_false_iff_ne]
  exact ⟨⟨⟨hother _ rfl, hother _ rfl⟩, hother _ rfl⟩, hother _ rfl⟩

/-- A number or a word is read up to where it ends. -/
theorem readValue_scalar {part : List Char} {v : Value} (hsome : part ≠ [])
    (hpart : ∀ c ∈ part, isScalarChar c = true) (hread : readScalar? part = some v)
    {rest : List Char} (hrest : Ends rest) (depth : Nat) :
    readValue (depth + 1) (part ++ rest) = some (v, rest) := by
  obtain ⟨c, cs, rfl⟩ := List.exists_cons_of_ne_nil hsome
  obtain ⟨htake, hdrop⟩ := span_append hpart hrest
  obtain ⟨hgap, hquote, harray, hobject⟩ := isScalarChar_facts (hpart c List.mem_cons_self)
  have hskip : skipGap (c :: cs ++ rest) = c :: cs ++ rest := skipGap_cons hgap _
  rw [readValue, hskip]
  split
  · rename_i heq
    exact absurd (List.cons.inj heq).1 hquote
  · rename_i heq
    exact absurd (List.cons.inj heq).1 harray
  · rename_i heq
    exact absurd (List.cons.inj heq).1 hobject
  · rw [htake, hdrop, hread]
    rfl

/-- Only the numeral of zero starts with a zero. -/
theorem eq_zero_of_head {n : Nat} (h : (decimalDigits n).head? = some '0') : n = 0 := by
  induction n using Nat.strongRecOn with
  | ind n ih =>
      by_cases hn : n < 10
      · rw [decimalDigits_of_lt hn, List.head?_cons, Option.some.injEq] at h
        rw [← digitValue_digitChar hn, h]
        rfl
      · have hn : 10 ≤ n := Nat.le_of_not_lt hn
        rw [decimalDigits_of_le hn, List.head?_append_of_ne_nil _ (decimalDigits_ne_nil _)] at h
        have hzero := ih (n / 10) (by omega) h
        omega

/-- The digits of a number are read with their sign. -/
theorem readUnsigned?_decimalDigits (negative : Bool) {n : Nat}
    (h : (decimalDigits n).length ≤ digitLimit) :
    readUnsigned? negative (decimalDigits n) = some (.int (signed negative n)) := by
  have hwhole := List.takeWhile_eq_self_iff.2 (decimalDigits_isDigit n)
  have hbehind := List.dropWhile_eq_nil_iff.2 (decimalDigits_isDigit n)
  have hsome : (decimalDigits n).isEmpty = false :=
    List.isEmpty_eq_false_iff.2 (decimalDigits_ne_nil n)
  have hzero : ((decimalDigits n).head? == some '0' && 1 < (decimalDigits n).length) = false := by
    by_cases hhead : (decimalDigits n).head? = some '0'
    · rw [eq_zero_of_head hhead, decimalDigits_of_lt (Nat.zero_lt_succ 9)]
      rfl
    · simp [hhead]
  simp only [readUnsigned?, hwhole, hbehind, hsome, hzero, Bool.or_self, Bool.false_eq_true,
    if_false, List.isEmpty_nil, if_true, if_neg (Nat.not_lt.2 h), digitsValue_decimalDigits]

/-- A whole number is read from its numeral. -/
theorem readScalar?_intChars {n : Int} (h : (decimalDigits n.natAbs).length ≤ digitLimit) :
    readScalar? (intChars n) = some (.int n) := by
  have hnumber : readScalar? (intChars n) = readNumber? (intChars n) := by
    unfold readScalar?
    split
    · rename_i heq
      exact absurd (digit_or_minus (n := n) (c := 'n') (by simp [heq])) (by decide)
    · rename_i heq
      exact absurd (digit_or_minus (n := n) (c := 't') (by simp [heq])) (by decide)
    · rename_i heq
      exact absurd (digit_or_minus (n := n) (c := 'f') (by simp [heq])) (by decide)
    · rfl
  rw [hnumber]
  cases n with
  | ofNat m =>
      have hdigits : readNumber? (decimalDigits m) = readUnsigned? false (decimalDigits m) := by
        unfold readNumber?
        split
        · rename_i heq
          exact absurd (decimalDigits_isDigit m '-' (by simp [heq])) (by decide)
        · rfl
      exact hdigits.trans (readUnsigned?_decimalDigits false h)
  | negSucc m => exact readUnsigned?_decimalDigits true h

/-! ## Values -/

mutual
/-- A value as it is read from its JSON text: a tuple comes out as a list, and a date as its
text. -/
def asRead : Value → Value
  | .date d => .text d.text
  | .list items => .list (asReadItems items)
  | .tuple items => .list (asReadItems items)
  | .mapping entries => .mapping (asReadEntries entries)
  | v => v

/-- The items of a sequence as they are read. -/
def asReadItems : List Value → List Value
  | [] => []
  | item :: items => asRead item :: asReadItems items

/-- The entries of a mapping as they are read. -/
def asReadEntries : Entries → Entries
  | [] => []
  | (name, value) :: entries => (name, asRead value) :: asReadEntries entries
end

/-- Items are read each. -/
theorem asReadItems_eq_map (items : List Value) : asReadItems items = items.map asRead := by
  induction items with
  | nil => rfl
  | cons item items ih => rw [asReadItems, ih, List.map_cons]

/-- Entries are read each, under their names. -/
theorem asReadEntries_eq_map (entries : Entries) :
    asReadEntries entries = entries.map fun e => (e.1, asRead e.2) := by
  induction entries with
  | nil => rfl
  | cons entry entries ih => rw [asReadEntries, ih, List.map_cons]

/-- A value that is built of nothing, truth values, whole numbers, texts and dates by
sequences and by mappings whose names are distinct.  No whole number has a numeral that is too
long. -/
inductive Writable : Value → Prop
  | null : Writable .null
  | bool (b : Bool) : Writable (.bool b)
  | int {n : Int} (h : (decimalDigits n.natAbs).length ≤ digitLimit) : Writable (.int n)
  | text (s : String) : Writable (.text s)
  | date (d : Calendar.DateTime) : Writable (.date d)
  | list {items : List Value} (h : ∀ item ∈ items, Writable item) : Writable (.list items)
  | tuple {items : List Value} (h : ∀ item ∈ items, Writable item) : Writable (.tuple items)
  | mapping {entries : Entries} (hnames : (entries.map Prod.fst).Nodup)
      (h : ∀ entry ∈ entries, Writable entry.2) : Writable (.mapping entries)

/-- The characters of the words. -/
theorem toList_words : Value.null.json.toList = ['n', 'u', 'l', 'l'] ∧
    (Value.bool true).json.toList = ['t', 'r', 'u', 'e'] ∧
    (Value.bool false).json.toList = ['f', 'a', 'l', 's', 'e'] := by
  decide +kernel

/-- The characters of a whole number are those of its numeral. -/
theorem toList_int (n : Int) : (Value.int n).json.toList = intChars n := by
  rw [Value.json, intText, String.toList_ofList]

/-- The characters of a JSON string. -/
theorem toList_jsonString (s : String) :
    (jsonString s).toList = '"' :: (s.toList.flatMap escapeJsonChar ++ ['"']) :=
  String.toList_ofList

/-- The text of an entry: its name as a string, and behind a colon its value. -/
def entryChars (entry : String × Value) : List Char :=
  (jsonString entry.1).toList ++ ':' :: ' ' :: entry.2.json.toList

/-- The characters of an array. -/
theorem toList_items (items : List Value) : (Value.list items).json.toList =
    '[' :: (join [',', ' '] (items.map (·.json.toList)) ++ [']']) := by
  have hitems : ∀ items, Value.jsonItems items = items.map Value.json := by
    intro items
    induction items with
    | nil => rfl
    | cons item items ih => rw [Value.jsonItems, ih, List.map_cons]
  simp only [Value.json, Value.commaSeparated, String.toList_append, toList_joinTexts, hitems,
    List.map_map]
  rfl

/-- The characters of an object. -/
theorem toList_entries (entries : Entries) : (Value.mapping entries).json.toList =
    '\x7b' :: (join [',', ' '] (entries.map entryChars) ++ ['\x7d']) := by
  have hentries : ∀ entries, (Value.jsonEntries entries).map String.toList =
      entries.map entryChars := by
    intro entries
    induction entries with
    | nil => rfl
    | cons entry entries ih =>
        rw [Value.jsonEntries, List.map_cons, ih, List.map_cons, entryChars]
        simp [String.toList_append]
  simp only [Value.json, Value.commaSeparated, String.toList_append, toList_joinTexts, hentries]
  rfl

/-- The numeral of a whole number consists of characters of numbers. -/
theorem isScalarChar_intChars (n : Int) : ∀ c ∈ intChars n, isScalarChar c = true := by
  intro c hc
  rcases digit_or_minus hc with hdigit | rfl
  · have hplain : c.isDigit = true := by
      simpa [isAsciiDigit, Char.isDigit, Char.le_def] using hdigit
    simp [isScalarChar, Char.isAlphanum, hplain]
  · rfl

/-- A numeral is never empty. -/
theorem intChars_ne_nil (n : Int) : intChars n ≠ [] := by
  cases n with
  | ofNat m => exact decimalDigits_ne_nil m
  | negSucc m => exact List.cons_ne_nil _ _

/-- The text of a value starts with a character that is no blank and closes no array. -/
theorem head_json {v : Value} (h : Writable v) :
    ∃ c cs, v.json.toList = c :: cs ∧ isGap c = false ∧ c ≠ ']' := by
  cases h with
  | null => exact ⟨'n', _, toList_words.1, rfl, by decide⟩
  | bool b =>
      cases b with
      | true => exact ⟨'t', _, toList_words.2.1, rfl, by decide⟩
      | false => exact ⟨'f', _, toList_words.2.2, rfl, by decide⟩
  | @int n _ =>
      obtain ⟨c, cs, hchars⟩ := List.exists_cons_of_ne_nil (intChars_ne_nil n)
      have hscalar := isScalarChar_intChars n c (hchars ▸ List.mem_cons_self)
      refine ⟨c, cs, ?_, (isScalarChar_facts hscalar).1, ?_⟩
      · rw [toList_int, hchars]
      · rintro rfl
        cases hscalar
  | text s => exact ⟨'"', _, toList_jsonString s, rfl, by decide⟩
  | date d => exact ⟨'"', _, toList_jsonString d.text, rfl, by decide⟩
  | @list items _ => exact ⟨'[', _, toList_items items, rfl, by decide⟩
  | @tuple items _ => exact ⟨'[', _, toList_items items, rfl, by decide⟩
  | @mapping entries _ _ => exact ⟨'\x7b', _, toList_entries entries, rfl, by decide⟩

/-- The text of an entry starts with a quote. -/
theorem head_entryChars (entry : String × Value) :
    ∃ c cs, entryChars entry = c :: cs ∧ isGap c = false ∧ c ≠ '\x7d' := by
  rw [entryChars, toList_jsonString, List.cons_append]
  exact ⟨'"', _, rfl, rfl, by decide⟩

/-- A piece is no longer than the text that it is part of. -/
theorem length_le_of_mem {piece : List Char} {pieces : List (List Char)} (h : piece ∈ pieces)
    (separator : List Char) : piece.length ≤ (join separator pieces).length := by
  induction pieces with
  | nil => cases h
  | cons first pieces ih =>
      cases pieces with
      | nil =>
          rw [List.mem_singleton.1 h]
          exact Nat.le_refl _
      | cons next pieces =>
          simp only [join, List.length_append]
          rcases List.mem_cons.1 h with rfl | hrest
          · omega
          · have := ih hrest
            omega

/-- The text of an item is shorter than that of its array. -/
theorem length_item_le {item : Value} {items : List Value} (h : item ∈ items) {depth : Nat}
    (hdepth : (Value.list items).json.toList.length ≤ depth + 1) :
    item.json.toList.length ≤ depth := by
  have hlength := length_le_of_mem (List.mem_map_of_mem (f := (·.json.toList)) h) [',', ' ']
  rw [toList_items, List.length_cons, List.length_append] at hdepth
  omega

/-- The text of an entry's value is shorter than that of its object. -/
theorem length_entry_le {entry : String × Value} {entries : Entries} (h : entry ∈ entries)
    {depth : Nat} (hdepth : (Value.mapping entries).json.toList.length ≤ depth + 1) :
    entry.2.json.toList.length ≤ depth := by
  have hlength := length_le_of_mem (List.mem_map_of_mem (f := entryChars) h) [',', ' ']
  rw [entryChars, List.length_append, List.length_cons, List.length_cons] at hlength
  rw [toList_entries, List.length_cons, List.length_append] at hdepth
  omega

/-- A blank in front of a value is left out. -/
theorem readValue_space (depth : Nat) (cs : List Char) :
    readValue depth (' ' :: cs) = readValue depth cs := by
  cases depth <;> rfl

/-- A blank in front of an entry is left out. -/
theorem readMember_space (readOne : List Char → Option (Value × List Char)) (cs : List Char) :
    readMember readOne (' ' :: cs) = readMember readOne cs := rfl

/-- A text is read from its string. -/
theorem readValue_jsonString (s : String) (depth : Nat) (rest : List Char) :
    readValue (depth + 1) ((jsonString s).toList ++ rest) = some (.text s, rest) := by
  have hread : readValue (depth + 1) ('"' :: (s.toList.flatMap escapeJsonChar ++ '"' :: rest)) =
      made .text (readText (s.toList.flatMap escapeJsonChar ++ '"' :: rest)) := rfl
  rw [toList_jsonString, List.cons_append, List.append_assoc, List.singleton_append, hread,
    readText_escaped, String.ofList_toList]
  rfl

/-- An entry is read from its text when its value is. -/
theorem readMember_entryChars {readOne : List Char → Option (Value × List Char)}
    {entry : String × Value} {v : Value} {rest : List Char}
    (hspace : ∀ cs, readOne (' ' :: cs) = readOne cs)
    (h : readOne (entry.2.json.toList ++ rest) = some (v, rest)) :
    readMember readOne (entryChars entry ++ rest) = some ((entry.1, v), rest) := by
  have hread : readMember readOne ('"' :: (entry.1.toList.flatMap escapeJsonChar ++
      '"' :: ':' :: ' ' :: (entry.2.json.toList ++ rest))) =
      (readText (entry.1.toList.flatMap escapeJsonChar ++
        '"' :: ':' :: ' ' :: (entry.2.json.toList ++ rest))).bind fun p =>
          readNamed readOne p.1 p.2 := rfl
  have hchars : entryChars entry ++ rest = '"' :: (entry.1.toList.flatMap escapeJsonChar ++
      '"' :: ':' :: ' ' :: (entry.2.json.toList ++ rest)) := by
    simp [entryChars, toList_jsonString]
  rw [hchars, hread, readText_escaped, String.ofList_toList, Option.bind_some, readNamed,
    skipGap_cons rfl]
  simp only [hspace, h, made, Option.map_some]

/-- What stands behind an element of an array or an object ends it. -/
theorem ends_mark {mark close : Char} (hclose : isScalarChar close = false)
    (h : mark = ',' ∨ mark = close) (rest : List Char) : Ends (mark :: rest) := by
  rintro _ ⟨⟩
  rcases h with rfl | rfl
  · rfl
  · exact hclose

/-- An array is read when its items are. -/
theorem readValue_items {items : List Value} {depth : Nat}
    (h : ∀ item ∈ items, ReadsBack (readValue depth) ']' item.json.toList (asRead item))
    (rest : List Char) :
    readValue (depth + 1) ((Value.list items).json.toList ++ rest) =
      some (.list (asReadItems items), rest) := by
  have hread : ∀ cs, readValue (depth + 1) ('[' :: cs) =
      made .list (readEnclosed (readValue depth) ']' cs) := fun _ => rfl
  have heach : List.Forall₂ (ReadsBack (readValue depth) ']') (items.map (·.json.toList))
      (items.map asRead) := by
    rw [List.forall₂_map_left_iff, List.forall₂_map_right_iff]
    exact List.forall₂_same.2 h
  rw [toList_items, List.cons_append, List.append_assoc, List.singleton_append, hread,
    readEnclosed_join (readValue_space depth) (by decide) rfl heach, asReadItems_eq_map]
  rfl

/-- An object with distinct names is read when its entries are. -/
theorem readValue_entries {entries : Entries} {depth : Nat}
    (hnames : (entries.map Prod.fst).Nodup)
    (h : ∀ entry ∈ entries,
      ReadsBack (readMember (readValue depth)) '\x7d' (entryChars entry) (entry.1, asRead entry.2))
    (rest : List Char) :
    readValue (depth + 1) ((Value.mapping entries).json.toList ++ rest) =
      some (.mapping (asReadEntries entries), rest) := by
  have hread : ∀ cs, readValue (depth + 1) ('\x7b' :: cs) =
      made (.mapping ∘ putEntries []) (readEnclosed (readMember (readValue depth)) '\x7d' cs) :=
    fun _ => rfl
  have heach : List.Forall₂ (ReadsBack (readMember (readValue depth)) '\x7d')
      (entries.map entryChars) (entries.map fun e => (e.1, asRead e.2)) := by
    rw [List.forall₂_map_left_iff, List.forall₂_map_right_iff]
    exact List.forall₂_same.2 h
  have hput : putEntries [] (asReadEntries entries) = asReadEntries entries := by
    apply putEntries_of_nodup
    rw [List.nil_append, asReadEntries_eq_map, List.map_map]
    exact hnames
  rw [toList_entries, List.cons_append, List.append_assoc, List.singleton_append, hread,
    readEnclosed_join (readMember_space _) (by decide) rfl heach, ← asReadEntries_eq_map]
  simp only [made, Option.map_some, Function.comp_apply, hput]

/-- There is room for a value where there is room for its text. -/
theorem exists_depth {v : Value} (h : Writable v) {depth : Nat}
    (hdepth : v.json.toList.length ≤ depth) : ∃ n, depth = n + 1 := by
  obtain ⟨c, cs, hchars, -⟩ := head_json h
  rw [hchars] at hdepth
  exact Nat.exists_eq_succ_of_ne_zero (Nat.ne_zero_of_lt hdepth)

/-- A value is read from its text, up to where the text ends. -/
theorem readValue_json {v : Value} (h : Writable v) {rest : List Char} (hrest : Ends rest)
    {depth : Nat} (hdepth : v.json.toList.length ≤ depth) :
    readValue depth (v.json.toList ++ rest) = some (asRead v, rest) := by
  induction h generalizing rest depth with
  | null =>
      obtain ⟨depth, rfl⟩ := exists_depth .null hdepth
      rw [toList_words.1]
      exact readValue_scalar (List.cons_ne_nil _ _) (List.all_eq_true.1 rfl) rfl hrest depth
  | bool b =>
      obtain ⟨depth, rfl⟩ := exists_depth (.bool b) hdepth
      cases b with
      | true =>
          rw [toList_words.2.1]
          exact readValue_scalar (List.cons_ne_nil _ _) (List.all_eq_true.1 rfl) rfl hrest depth
      | false =>
          rw [toList_words.2.2]
          exact readValue_scalar (List.cons_ne_nil _ _) (List.all_eq_true.1 rfl) rfl hrest depth
  | @int n hdigits =>
      obtain ⟨depth, rfl⟩ := exists_depth (.int hdigits) hdepth
      rw [toList_int]
      exact readValue_scalar (intChars_ne_nil n) (isScalarChar_intChars n)
        (readScalar?_intChars hdigits) hrest depth
  | text s =>
      obtain ⟨depth, rfl⟩ := exists_depth (.text s) hdepth
      exact readValue_jsonString s depth rest
  | date d =>
      obtain ⟨depth, rfl⟩ := exists_depth (.date d) hdepth
      exact readValue_jsonString d.text depth rest
  -- The text of a part is shorter than that of the whole, so the depth lasts for each part.
  | @list items hitems ih | @tuple items hitems ih =>
      obtain ⟨depth, rfl⟩ := exists_depth (.list hitems) hdepth
      refine readValue_items (fun item hitem => ⟨head_json (hitems item hitem), ?_⟩) rest
      intro mark rest hmark
      refine ih item hitem (ends_mark rfl hmark rest) ?_
      exact length_item_le hitem hdepth
  | @mapping entries hnames hentries ih =>
      obtain ⟨depth, rfl⟩ := exists_depth (.mapping hnames hentries) hdepth
      refine readValue_entries hnames (fun entry hentry => ⟨head_entryChars entry, ?_⟩) rest
      intro mark rest hmark
      apply readMember_entryChars (readValue_space depth)
      refine ih entry hentry (ends_mark rfl hmark rest) ?_
      exact length_entry_le hentry hdepth

/-- The JSON text of a value stands for the value, as it is read. -/
theorem readJson?_json {v : Value} (h : Writable v) : readJson? v.json = some (asRead v) := by
  have hends : Ends [] := by rintro _ ⟨⟩
  have hdepth : v.json.toList.length ≤ v.json.length + 1 := by
    rw [String.length_toList]
    exact Nat.le_succ _
  have hread := readValue_json h hends hdepth
  rw [List.append_nil] at hread
  rw [readJson?, hread]
  rfl

end Json
end PagedQuery
