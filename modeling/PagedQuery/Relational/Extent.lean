import PagedQuery.Relational.Condition

/-!
# The extent of conditions

The embedded engine reads a condition from left to right and keeps what is not
finished in a room of limited size; what it has read is a tree of limited height.
Conditions that are nested too deep are refused, however simple their members are.
A search for a very long text is refused when a record is tested by it.

Main results:

- Theorem `overruns_negation`: the opposite of a condition is tested as far as the
  condition itself.
-/

namespace PagedQuery
namespace Relational

/-- The places that a condition may take while it is read. -/
def roomLimit : Nat := 94

/-- The height that the tree of a condition may have. -/
def heightLimit : Nat := 1000

/-- The bytes that the pattern of a search may have. -/
def patternLimit : Nat := 50000

/-- The bytes of the pattern of a search: those of the text, one more for each
character that has a meaning in patterns, and one for what may stand at either end. -/
def patternSize (needle : String) : Nat :=
  needle.utf8ByteSize + needle.toList.countP ['/', '%', '_'].contains + 2

namespace Condition

variable {β : Type}

/-- The condition is a disjunction, which stands in brackets inside a
conjunction. -/
def isDisj : Condition β → Bool
  | disj _ => true
  | _ => false

mutual
/-- The places that are taken at most while a condition is read behind some taken
places. -/
def room (taken : Nat) : Condition β → Nat
  | constant _ => taken + 1
  | isNull _ | compare _ _ _ => taken + 3
  | negation (isNull _) => taken + 4
  | contains _ _ | negation (contains _ _) => taken + 6
  | conj conditions => roomOfMembers true taken (taken + 2) conditions
  | disj conditions => roomOfMembers false taken (taken + 2) conditions
  | negation condition => room (taken + 2) condition

/-- The places that the members of a list take: the first one behind those taken at
first, the others behind those taken next. -/
def roomOfMembers (inConj : Bool) (taken next : Nat) : List (Condition β) → Nat
  | [] => taken
  | condition :: conditions =>
      max (room (if inConj && isDisj condition then taken + 1 else taken) condition)
        (roomOfMembers inConj next next conditions)
end

mutual
/-- The height of the tree of a condition. -/
def height : Condition β → Nat
  | constant _ => 1
  | isNull _ | compare _ _ _ | negation (isNull _) => 3
  | contains _ _ => 4
  | negation (contains _ _) => 5
  | conj (condition :: conditions) | disj (condition :: conditions) =>
      heightOfMembers (height condition) conditions
  | conj [] | disj [] => 1
  | negation condition => height condition + 1

/-- The height of a tree to which members are joined one after another. -/
def heightOfMembers (below : Nat) : List (Condition β) → Nat
  | [] => below
  | condition :: conditions =>
      heightOfMembers (max below (height condition) + 1) conditions
end

mutual
/-- The number of values that a condition compares columns with or searches for. -/
def operandCount : Condition β → Nat
  | compare _ _ _ | contains _ _ => 1
  | conj conditions | disj conditions => operandCountAll conditions
  | negation condition => operandCount condition
  | constant _ | isNull _ => 0

/-- The number of such values of several conditions. -/
def operandCountAll : List (Condition β) → Nat
  | [] => 0
  | condition :: conditions => operandCount condition + operandCountAll conditions
end

/-- The condition is small enough to be read. -/
def isReadable (condition : Condition β) : Bool :=
  condition.room 0 ≤ roomLimit && condition.height ≤ heightLimit

mutual
/-- The test of a record comes to a search with too long a pattern. -/
def overruns : Condition Cell → Record → Bool
  | contains _ needle, _ => patternLimit < patternSize needle
  | conj conditions, r => overrunsWhile true conditions r
  | disj conditions, r => overrunsWhile false conditions r
  | negation condition, r => overruns condition r
  | constant _, _ | isNull _, _ | compare _ _ _, _ => false

/-- The test of a record by several conditions comes to such a search, when it goes on
while they select the record, or while they do not. -/
def overrunsWhile (selecting : Bool) : List (Condition Cell) → Record → Bool
  | [], _ => false
  | condition :: conditions, r =>
      overruns condition r ||
        (condition.selects r == selecting && overrunsWhile selecting conditions r)
end

@[simp]
theorem overruns_negation (condition : Condition Cell) (r : Record) :
    overruns (negation condition) r = overruns condition r := by
  rw [overruns]

end Condition

end Relational
end PagedQuery
