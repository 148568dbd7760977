/-!
# Patterns

A pattern describes texts: a percent sign stands for any run of characters, a
low line for any one character, and the character behind an escape sign for
itself.  Characters match without regard to the case of ASCII letters.

Main results:

- Theorem `existsSuffix_iff`: some rest of a text meets a condition.
- Theorem `readPattern_escapeSigns`: an escaped text is read as its characters.
- Theorem `beforeNul_of_not_mem`: a text without NUL is searched as a whole.
-/

namespace PagedQuery
namespace Relational

/-- A part of a pattern. -/
inductive PatternPart where
  /-- Any run of characters. -/
  | run
  /-- Any one character. -/
  | single
  | char (c : Char)
  deriving DecidableEq, Repr

/-- The part that a character stands for in a pattern. -/
def readSign (c : Char) : PatternPart :=
  if c == '%' then .run else if c == '_' then .single else .char c

/-- Read a pattern with an escape sign.  An escape sign at the end stands for
itself. -/
def readPattern (escape : Char) : List Char → List PatternPart
  | [] => []
  | [c] => if c == escape then [.char c] else [readSign c]
  | c :: d :: rest =>
      if c == escape then .char d :: readPattern escape rest
      else readSign c :: readPattern escape (d :: rest)

/-- The small letter of an ASCII capital, else the character itself. -/
def foldAscii (c : Char) : Char :=
  if 'A' ≤ c && c ≤ 'Z' then Char.ofNat (c.toNat + 32) else c

/-- A text or one of its rests meets a condition. -/
def existsSuffix (p : List Char → Bool) : List Char → Bool
  | [] => p []
  | c :: cs => p (c :: cs) || existsSuffix p cs

/-- A text fits a pattern as a whole. -/
def fits : List PatternPart → List Char → Bool
  | [], cs => cs.isEmpty
  | .run :: parts, cs => existsSuffix (fits parts) cs
  | .single :: parts, cs =>
      match cs with
      | _ :: cs => fits parts cs
      | [] => false
  | .char d :: parts, cs =>
      match cs with
      | c :: cs => foldAscii c == foldAscii d && fits parts cs
      | [] => false

/-! ## Patterns for parts of a text -/

/-- The sign in front of characters that stand for themselves. -/
def escapeSign : Char := '/'

/-- A text with the signs of patterns escaped. -/
def escapeSigns : List Char → List Char
  | [] => []
  | c :: cs =>
      if c == escapeSign || c == '%' || c == '_' then escapeSign :: c :: escapeSigns cs
      else c :: escapeSigns cs

/-- The pattern of the texts that contain a text. -/
def containsPattern (needle : List Char) : List Char := '%' :: escapeSigns needle ++ ['%']

/-- A text up to its first NUL, where patterns and searched texts end. -/
def beforeNul (cs : List Char) : List Char := cs.takeWhile (· != '\x00')

/-- A text contains another one, as its pattern says. -/
def likeContains (needle hay : List Char) : Bool :=
  fits (readPattern escapeSign (beforeNul (containsPattern needle))) (beforeNul hay)

theorem existsSuffix_iff (p : List Char → Bool) (cs : List Char) :
    existsSuffix p cs = true ↔ ∃ before after, cs = before ++ after ∧ p after = true := by
  induction cs with
  | nil =>
      constructor
      · exact fun h => ⟨[], [], rfl, h⟩
      · rintro ⟨before, after, h, hp⟩
        have ha : after = [] := (List.append_eq_nil_iff.1 h.symm).2
        simpa [existsSuffix, ha] using hp
  | cons c cs ih =>
      simp only [existsSuffix, Bool.or_eq_true, ih]
      constructor
      · rintro (h | ⟨before, after, h, hp⟩)
        · exact ⟨[], c :: cs, rfl, h⟩
        · exact ⟨c :: before, after, by simp [h], hp⟩
      · rintro ⟨before, after, h, hp⟩
        cases before with
        | nil => exact Or.inl (by simpa [h] using hp)
        | cons b before =>
            simp only [List.cons_append, List.cons.injEq] at h
            exact Or.inr ⟨before, after, h.2, hp⟩

theorem readPattern_escapeSigns (cs rest : List Char) :
    readPattern escapeSign (escapeSigns cs ++ rest) =
      cs.map .char ++ readPattern escapeSign rest := by
  induction cs with
  | nil => rfl
  | cons c cs ih =>
      by_cases h : c == escapeSign || c == '%' || c == '_'
      · simp only [escapeSigns, h, if_true, List.cons_append, readPattern, beq_self_eq_true,
          List.map_cons, ih]
      · have hne : escapeSigns (c :: cs) = c :: escapeSigns cs := by simp [escapeSigns, h]
        simp only [Bool.or_eq_true, not_or, Bool.not_eq_true] at h
        rw [hne, List.cons_append, List.map_cons, List.cons_append, ← ih]
        cases escapeSigns cs ++ rest with
        | nil => simp only [readPattern, h.1.1, readSign, h.1.2, h.2, Bool.false_eq_true, if_false]
        | cons d tail =>
            simp only [readPattern, h.1.1, readSign, h.1.2, h.2, Bool.false_eq_true, if_false]

theorem beforeNul_of_not_mem {cs : List Char} (h : '\x00' ∉ cs) : beforeNul cs = cs := by
  induction cs with
  | nil => rfl
  | cons c cs ih =>
      simp only [List.mem_cons, not_or] at h
      have hc : (c != '\x00') = true := by simpa using Ne.symm h.1
      rw [beforeNul, List.takeWhile_cons, if_pos hc]
      exact congrArg (c :: ·) (ih h.2)

end Relational
end PagedQuery
