import PagedQuery.Proofs.JsonReading
import PagedQuery.Proofs.PlainNumerals

/-!
# The grammar of JSON texts

A JSON text is a value with blanks around it.  A value is a word, a number, a string, an array or
an object, and the grammar says for each of them how it is written and what it stands for.  The
reader follows this grammar: whatever it accepts is a JSON text, and stands for what the reader
gives.

Main results:

- Definition `IsJson`: the JSON texts and what they stand for.
- Theorem `isJson_of_read`: what is read is a JSON text.
-/

namespace PagedQuery
namespace Json

open Coercion Numeric

/-! ## Strings -/

/-- Nothing but blanks. -/
def IsGap (cs : List Char) : Prop := ∀ c ∈ cs, isGap c = true

/-- What stands between the quotes of a string, letter by letter. -/
inductive IsLetters : List Char → List Letter → Prop
  | nil : IsLetters [] []
  | plain {c : Char} {cs : List Char} {letters : List Letter} (hcontrol : 32 ≤ c.toNat)
      (hquote : c ≠ '"') (hslash : c ≠ '\\') (h : IsLetters cs letters) :
      IsLetters (c :: cs) (.itself c :: letters)
  | escape {sign c : Char} {cs : List Char} {letters : List Letter}
      (hsign : escaped? sign = some c) (h : IsLetters cs letters) :
      IsLetters ('\\' :: sign :: cs) (.itself c :: letters)
  | unit {a b c d : Char} {n : Nat} {cs : List Char} {letters : List Letter}
      (hunit : hexNumber? [a, b, c, d] = some n) (h : IsLetters cs letters) :
      IsLetters ('\\' :: 'u' :: a :: b :: c :: d :: cs) (.unit n :: letters)

/-- A string, and the text that its letters spell. -/
inductive IsString : List Char → String → Prop
  | quoted {cs spelled : List Char} {letters : List Letter} (h : IsLetters cs letters)
      (hspell : spell? letters = some spelled) : IsString ('"' :: (cs ++ ['"'])) (.ofList spelled)

/-! ## Numbers -/

/-- The digits in front of the point: no zero stands in front of another digit. -/
structure IsWhole (cs : List Char) : Prop extends IsDigits cs where
  unpadded : cs.head? = some '0' → cs = ['0']

/-- A point and digits, or nothing. -/
inductive IsFraction : List Char → List Char → Prop
  | none : IsFraction [] []
  | point {digits : List Char} (h : IsDigits digits) : IsFraction ('.' :: digits) digits

/-- A number: a whole one, not too long to be a numeral, or one with a fraction or an
exponent. -/
inductive IsNumber : List Char → Value → Prop
  | whole {sign digits : List Char} (hsign : sign = [] ∨ sign = ['-']) (h : IsWhole digits)
      (hlength : digits.length ≤ digitLimit) :
      IsNumber (sign ++ digits) (.int (signed (sign == ['-']) (digitsValue digits)))
  | double {sign digits point fraction scale : List Char} {exponent : Int}
      (hsign : sign = [] ∨ sign = ['-']) (h : IsWhole digits) (hpoint : IsFraction point fraction)
      (hscale : IsExponent scale exponent) (hsome : point ++ scale ≠ []) :
      IsNumber (sign ++ (digits ++ (point ++ scale)))
        (.double (doubleOfDecimal (sign == ['-']) (digitsValue (digits ++ fraction))
          (exponent - fraction.length)))

/-! ## Values -/

/-- Elements with blanks around them and commas in between. -/
inductive IsSeparated {α : Type} (p : List Char → α → Prop) : List Char → List α → Prop
  | last {front part back : List Char} {x : α} (hfront : IsGap front) (h : p part x)
      (hback : IsGap back) : IsSeparated p (front ++ (part ++ back)) [x]
  | more {front part back rest : List Char} {x : α} {xs : List α} (hfront : IsGap front)
      (h : p part x) (hback : IsGap back) (hrest : IsSeparated p rest xs) :
      IsSeparated p (front ++ (part ++ (back ++ ',' :: rest))) (x :: xs)

/-- A name and a value with a colon in between. -/
inductive IsMember (p : List Char → Value → Prop) : List Char → String × Value → Prop
  | named {quoted back front part : List Char} {name : String} {v : Value}
      (hname : IsString quoted name) (hback : IsGap back) (hfront : IsGap front) (h : p part v) :
      IsMember p (quoted ++ (back ++ ':' :: (front ++ part))) (name, v)

/-- A value without blanks around it, and what it stands for.  The last value of a repeated name
counts. -/
inductive IsValue : List Char → Value → Prop
  | null : IsValue ['n', 'u', 'l', 'l'] .null
  | yes : IsValue ['t', 'r', 'u', 'e'] (.bool true)
  | no : IsValue ['f', 'a', 'l', 's', 'e'] (.bool false)
  | number {cs : List Char} {v : Value} (h : IsNumber cs v) : IsValue cs v
  | string {cs : List Char} {s : String} (h : IsString cs s) : IsValue cs (.text s)
  | emptyArray {gap : List Char} (h : IsGap gap) : IsValue ('[' :: (gap ++ [']'])) (.list [])
  | array {cs : List Char} {items : List Value} (h : IsSeparated IsValue cs items) :
      IsValue ('[' :: (cs ++ [']'])) (.list items)
  | emptyObject {gap : List Char} (h : IsGap gap) :
      IsValue ('\x7b' :: (gap ++ ['\x7d'])) (.mapping [])
  | object {cs : List Char} {members : List (String × Value)}
      (h : IsSeparated (IsMember IsValue) cs members) :
      IsValue ('\x7b' :: (cs ++ ['\x7d'])) (.mapping (putEntries [] members))

/-- A JSON text and what it stands for. -/
def IsJson (cs : List Char) (v : Value) : Prop :=
  ∃ front part back, cs = front ++ (part ++ back) ∧ IsGap front ∧ IsValue part v ∧ IsGap back

/-! ## What is read -/

/-- What was made of something that was read was read before. -/
theorem made_eq_some {α β : Type} {f : α → β} {read : Option (α × List Char)} {y : β}
    {rest : List Char} (h : made f read = some (y, rest)) :
    ∃ x, read = some (x, rest) ∧ f x = y := by
  cases read with
  | none => cases h
  | some p =>
      cases h
      exact ⟨p.1, rfl, rfl⟩

/-- A text is the blanks in front and what is left without them. -/
theorem exists_gap (cs : List Char) : ∃ gap, cs = gap ++ skipGap cs ∧ IsGap gap :=
  ⟨cs.takeWhile isGap, List.takeWhile_append_dropWhile.symm,
    fun _ hc => List.mem_takeWhile_imp hc⟩

/-- What is read up to a quote are letters. -/
theorem isLetters_of_read {cs : List Char} {letters : List Letter} {rest : List Char}
    (h : readLetters cs = some (letters, rest)) :
    ∃ body, cs = body ++ '"' :: rest ∧ IsLetters body letters := by
  fun_induction readLetters cs generalizing letters with
  | case1 => cases h
  | case2 more =>
      cases h
      exact ⟨[], rfl, .nil⟩
  | case3 a b c d more ih =>
      obtain ⟨n, hn, hmade⟩ := Option.bind_eq_some_iff.1 h
      obtain ⟨following, hread, rfl⟩ := made_eq_some hmade
      obtain ⟨body, rfl, hbody⟩ := ih hread
      exact ⟨_, rfl, .unit hn hbody⟩
  | case4 sign more _ ih =>
      obtain ⟨c, hc, hmade⟩ := Option.bind_eq_some_iff.1 h
      obtain ⟨following, hread, rfl⟩ := made_eq_some hmade
      obtain ⟨body, rfl, hbody⟩ := ih hread
      exact ⟨_, rfl, .escape hc hbody⟩
  | case5 => cases h
  | case6 c more hquote _ _ hkept ih =>
      obtain ⟨following, hread, rfl⟩ := made_eq_some h
      obtain ⟨body, rfl, hbody⟩ := ih hread
      simp only [Bool.or_eq_true, beq_iff_eq, decide_eq_true_eq, not_or] at hkept
      exact ⟨_, rfl, .plain (Nat.le_of_not_lt hkept.2) hquote hkept.1 hbody⟩

/-- What is read as a text is the rest of a string. -/
theorem isString_of_read {cs : List Char} {s : String} {rest : List Char}
    (h : readText cs = some (s, rest)) :
    ∃ body, '"' :: cs = body ++ rest ∧ IsString body s := by
  obtain ⟨⟨letters, behind⟩, hread, hspelled⟩ := Option.bind_eq_some_iff.1 h
  obtain ⟨spelled, hspell, htext⟩ := Option.map_eq_some_iff.1 hspelled
  cases htext
  obtain ⟨body, rfl, hbody⟩ := isLetters_of_read hread
  exact ⟨_, by simp, .quoted hbody hspell⟩

/-! ### Numbers -/

/-- The digits in front of a text, and what stands behind them. -/
theorem isDigits_takeWhile {cs : List Char} (h : (cs.takeWhile isAsciiDigit).isEmpty = false) :
    IsDigits (cs.takeWhile isAsciiDigit) :=
  ⟨List.isEmpty_eq_false_iff.1 h, fun _ hc => List.mem_takeWhile_imp hc⟩

/-- What is read behind the digits of a number is a fraction and an exponent. -/
theorem isFraction_of_read {cs fraction : List Char} {exponent : Int}
    (h : readFraction? cs = some (fraction, exponent)) :
    ∃ point scale, cs = point ++ scale ∧ IsFraction point fraction ∧ IsExponent scale exponent := by
  unfold readFraction? at h
  split at h
  · rename_i more
    split at h
    · cases h
    · rename_i hsome
      obtain ⟨value, hvalue, heq⟩ := Option.map_eq_some_iff.1 h
      cases heq
      refine ⟨'.' :: more.takeWhile isAsciiDigit, more.dropWhile isAsciiDigit, ?_,
        .point (isDigits_takeWhile (Bool.eq_false_iff.2 hsome)),
        readExponent?_eq_some_iff.1 hvalue⟩
      rw [List.cons_append, List.takeWhile_append_dropWhile]
  · obtain ⟨value, hvalue, heq⟩ := Option.map_eq_some_iff.1 h
    cases heq
    exact ⟨[], cs, rfl, .none, readExponent?_eq_some_iff.1 hvalue⟩

/-- What is read behind a sign is a number with this sign. -/
theorem isNumber_of_readUnsigned {sign cs : List Char} {v : Value}
    (hsign : sign = [] ∨ sign = ['-']) (h : readUnsigned? (sign == ['-']) cs = some v) :
    IsNumber (sign ++ cs) v := by
  have hparts : cs.takeWhile isAsciiDigit ++ cs.dropWhile isAsciiDigit = cs :=
    List.takeWhile_append_dropWhile
  simp only [readUnsigned?] at h
  split at h
  · cases h
  · rename_i hdigits
    simp only [Bool.or_eq_true, Bool.and_eq_true, beq_iff_eq, decide_eq_true_eq, not_or, not_and,
      Bool.not_eq_true] at hdigits
    have hwhole : IsWhole (cs.takeWhile isAsciiDigit) := by
      refine ⟨isDigits_takeWhile hdigits.1, fun hzero => ?_⟩
      obtain ⟨others, hothers⟩ := List.head?_eq_some_iff.1 hzero
      have hshort := hdigits.2 hzero
      rw [hothers, List.length_cons] at hshort
      rw [hothers, List.length_eq_zero_iff.1 (show others.length = 0 by omega)]
    split at h
    · rename_i hbehind
      rw [List.isEmpty_iff.1 hbehind, List.append_nil] at hparts
      split at h
      · cases h
      · rename_i hlength
        cases h
        rw [hparts] at hwhole hlength ⊢
        exact .whole hsign hwhole (Nat.le_of_not_lt hlength)
    · rename_i hbehind
      obtain ⟨⟨fraction, exponent⟩, hread, hv⟩ := Option.map_eq_some_iff.1 h
      obtain ⟨point, scale, hsplit, hpoint, hscale⟩ := isFraction_of_read hread
      cases hv
      have hsome : point ++ scale ≠ [] := by
        rw [← hsplit]
        exact fun hnil => hbehind (List.isEmpty_iff.2 hnil)
      rw [hsplit] at hparts
      have hnumber := IsNumber.double hsign hwhole hpoint hscale hsome
      rwa [hparts] at hnumber

/-- What is read as a number is one. -/
theorem isNumber_of_read {cs : List Char} {v : Value} (h : readNumber? cs = some v) :
    IsNumber cs v := by
  unfold readNumber? at h
  split at h
  · exact isNumber_of_readUnsigned (.inr rfl) h
  · exact isNumber_of_readUnsigned (.inl rfl) h

/-- What is read as a word or a number is a value. -/
theorem isValue_of_readScalar {cs : List Char} {v : Value} (h : readScalar? cs = some v) :
    IsValue cs v := by
  unfold readScalar? at h
  split at h
  · cases h
    exact .null
  · cases h
    exact .yes
  · cases h
    exact .no
  · exact .number (isNumber_of_read h)

/-! ### Arrays and objects -/

/-- What a reader takes from a text is, behind blanks, what the relation says. -/
def Follows {α : Type} (readOne : List Char → Option (α × List Char))
    (p : List Char → α → Prop) : Prop :=
  ∀ cs x rest, readOne cs = some (x, rest) →
    ∃ gap part, cs = gap ++ (part ++ rest) ∧ IsGap gap ∧ p part x

section

variable {α : Type} {readOne : List Char → Option (α × List Char)} {p : List Char → α → Prop}
  {close : Char}

/-- What is read up to the closing mark are elements. -/
theorem isSeparated_of_read (hone : Follows readOne p) {bound : Nat} {cs : List Char}
    {xs : List α} {rest : List Char}
    (h : readElements readOne close bound cs = some (xs, rest)) :
    ∃ body, cs = body ++ close :: rest ∧ IsSeparated p body xs := by
  induction bound generalizing cs xs with
  | zero => cases h
  | succ bound ih =>
      rw [readElements] at h
      split at h
      · cases h
      · rename_i x behind hread
        obtain ⟨front, part, rfl, hfront, hpart⟩ := hone _ _ _ hread
        obtain ⟨back, hsplit, hback⟩ := exists_gap behind
        split at h
        · cases h
        · rename_i mark more hmark
          rw [hmark] at hsplit
          split at h
          · rename_i hclose
            cases h
            rw [beq_iff_eq.1 hclose] at hsplit
            exact ⟨_, by rw [hsplit]; simp, .last hfront hpart hback⟩
          · split at h
            · rename_i hcomma
              obtain ⟨following, hfollowing, rfl⟩ := made_eq_some h
              obtain ⟨body, rfl, hbody⟩ := ih hfollowing
              rw [beq_iff_eq.1 hcomma] at hsplit
              exact ⟨_, by rw [hsplit]; simp, .more hfront hpart hback hbody⟩
            · cases h

/-- What is read between two marks are elements, or nothing but blanks. -/
theorem isSeparated_of_readEnclosed (hone : Follows readOne p) {cs : List Char} {xs : List α}
    {rest : List Char} (h : readEnclosed readOne close cs = some (xs, rest)) :
    ∃ body, cs = body ++ close :: rest ∧ ((IsGap body ∧ xs = []) ∨ IsSeparated p body xs) := by
  rw [readEnclosed] at h
  split at h
  · cases h
  · rename_i mark more hmark
    split at h
    · rename_i hclose
      cases h
      obtain ⟨gap, hsplit, hgap⟩ := exists_gap cs
      rw [hmark, beq_iff_eq.1 hclose] at hsplit
      exact ⟨gap, hsplit, .inl ⟨hgap, rfl⟩⟩
    · obtain ⟨body, hbody, hparts⟩ := isSeparated_of_read hone h
      exact ⟨body, hbody, .inr hparts⟩

end

/-- What is read as a member is a name and a value. -/
theorem follows_member {readOne : List Char → Option (Value × List Char)}
    (hone : Follows readOne IsValue) : Follows (readMember readOne) (IsMember IsValue) := by
  intro cs member rest h
  obtain ⟨gap, hsplit, hgap⟩ := exists_gap cs
  rw [readMember] at h
  split at h
  · rename_i behind hquote
    obtain ⟨⟨name, more⟩, hread, hnamed⟩ := Option.bind_eq_some_iff.1 h
    obtain ⟨quoted, hquoted, hname⟩ := isString_of_read hread
    obtain ⟨back, hbehind, hback⟩ := exists_gap more
    rw [readNamed] at hnamed
    split at hnamed
    · rename_i colon hcolon
      obtain ⟨v, hvalue, rfl⟩ := made_eq_some hnamed
      obtain ⟨front, part, rfl, hfront, hpart⟩ := hone _ _ _ hvalue
      refine ⟨gap, _, ?_, hgap, .named hname hback hfront hpart⟩
      rw [hsplit, hquote, hquoted, hbehind, hcolon]
      simp
    · cases hnamed
  · cases h

/-- What is read as a value is one. -/
theorem follows_value (depth : Nat) : Follows (readValue depth) IsValue := by
  induction depth with
  | zero =>
      intro cs v rest h
      cases h
  | succ depth ih =>
      intro cs v rest h
      obtain ⟨gap, hsplit, hgap⟩ := exists_gap cs
      rw [readValue] at h
      split at h
      · rename_i behind hquote
        obtain ⟨s, hread, rfl⟩ := made_eq_some h
        obtain ⟨body, hbody, hstring⟩ := isString_of_read hread
        exact ⟨gap, body, by rw [hsplit, hquote, hbody], hgap, .string hstring⟩
      · rename_i behind hopen
        obtain ⟨items, hread, rfl⟩ := made_eq_some h
        obtain ⟨body, hbody, hparts⟩ := isSeparated_of_readEnclosed ih hread
        refine ⟨gap, '[' :: (body ++ [']']), by rw [hsplit, hopen, hbody]; simp, hgap, ?_⟩
        rcases hparts with ⟨hempty, rfl⟩ | hitems
        · exact .emptyArray hempty
        · exact .array hitems
      · rename_i behind hopen
        obtain ⟨members, hread, rfl⟩ := made_eq_some h
        obtain ⟨body, hbody, hparts⟩ := isSeparated_of_readEnclosed (follows_member ih) hread
        refine ⟨gap, '\x7b' :: (body ++ ['\x7d']), by rw [hsplit, hopen, hbody]; simp, hgap, ?_⟩
        rcases hparts with ⟨hempty, rfl⟩ | hmembers
        · exact .emptyObject hempty
        · exact .object hmembers
      · obtain ⟨scalar, hread, heq⟩ := Option.map_eq_some_iff.1 h
        cases heq
        refine ⟨gap, _, ?_, hgap, isValue_of_readScalar hread⟩
        rw [List.takeWhile_append_dropWhile]
        exact hsplit

/-- What is read is a JSON text, and it stands for what is read. -/
theorem isJson_of_read {s : String} {v : Value} (h : readJson? s = some v) :
    IsJson s.toList v := by
  obtain ⟨⟨value, rest⟩, hread, hend⟩ := Option.bind_eq_some_iff.1 h
  obtain ⟨front, part, hsplit, hfront, hpart⟩ := follows_value _ _ _ _ hread
  obtain ⟨back, hback, hgap⟩ := exists_gap rest
  split at hend
  · rename_i hempty
    cases hend
    rw [List.isEmpty_iff.1 hempty, List.append_nil] at hback
    exact ⟨front, part, back, hback ▸ hsplit, hfront, hpart, hgap⟩
  · cases hend

end Json
end PagedQuery
