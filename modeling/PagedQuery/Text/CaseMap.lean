import PagedQuery.Text.CaseMap.Table

/-!
# Lower and upper case

Case mapping follows the full Unicode rules: a character may become several,
and a capital sigma becomes a final one at the end of a word.
-/

namespace PagedQuery
namespace Text

/-- The code point belongs to the run. -/
def CaseRun.covers (run : CaseRun) (code : Nat) : Bool :=
  run.first ≤ code && code ≤ run.last && (code - run.first) % run.step == 0

/-- Map a code point by its expansion, else by its run, else to itself. -/
def mapCase (runs : List CaseRun) (expansions : List (Nat × List Nat))
    (c : Char) : List Char :=
  match expansions.lookup c.toNat with
  | some codes => codes.map Char.ofNat
  | none =>
      match runs.find? (·.covers c.toNat) with
      | some run => [Char.ofNat ((c.toNat : Int) + run.shift).toNat]
      | none => [c]

/-- Lower case of a character on its own. -/
def lowerChar (c : Char) : List Char := mapCase lowerRuns lowerExpansions c

/-- Upper case of a character on its own. -/
def upperChar (c : Char) : List Char := mapCase upperRuns upperExpansions c

/-- Behind characters that case rules skip there is a cased one. -/
def nextIsCased (cs : List Char) : Bool :=
  match cs.dropWhile (inRanges caseIgnorableRanges) with
  | c :: _ => inRanges casedRanges c
  | [] => false

/-- Lower case of the remaining characters, given the earlier ones backwards.
A capital sigma that ends a word of at least two letters becomes final. -/
def lowerFrom : (before : List Char) → List Char → List Char
  | _, [] => []
  | before, c :: rest =>
      if c == 'Σ' then
        (if nextIsCased before && !nextIsCased rest then 'ς' else 'σ') ::
          lowerFrom (c :: before) rest
      else lowerChar c ++ lowerFrom (c :: before) rest

/-- Lower case of a text. -/
def lowerText (s : String) : String := .ofList (lowerFrom [] s.toList)

/-- Upper case of a text. -/
def upperText (s : String) : String := .ofList (s.toList.flatMap upperChar)

end Text
end PagedQuery
