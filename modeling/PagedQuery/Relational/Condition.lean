import PagedQuery.Predicate.Basic
import PagedQuery.Relational.Like
import PagedQuery.Relational.Schema

/-!
# Conditions of a statement

A predicate becomes a condition on the columns of a table.  A condition may have
no answer for a record, namely where it looks at nothing; conjunction,
disjunction and negation treat such a missing answer as one that could still
turn out either way.

Main results:

- Theorem `negate_negate`: negation of truth values undoes itself.
- Theorem `truth_opposite`: the opposite of a condition has the opposite answer.
- Theorem `truth_conj_nil`: the empty conjunction is true of every record.
- Theorem `truth_disj_nil`: the empty disjunction is true of none.
-/

namespace PagedQuery
namespace Relational

/-! ## Truth with missing answers -/

/-- The answer of a condition: yes, no, or none. -/
inductive Truth where
  | yes
  | no
  | unknown
  deriving DecidableEq, Repr

namespace Truth

/-- The truth value of an answer. -/
def ofOption : Option Bool → Truth
  | some true => yes
  | some false => no
  | none => unknown

/-- The truth value of a definite answer. -/
def ofBool (b : Bool) : Truth := if b then yes else no

/-- Both answers. -/
def and : Truth → Truth → Truth
  | no, _ | _, no => no
  | yes, yes => yes
  | _, _ => unknown

/-- At least one of two answers. -/
def or : Truth → Truth → Truth
  | yes, _ | _, yes => yes
  | no, no => no
  | _, _ => unknown

/-- The opposite answer. -/
def negate : Truth → Truth
  | yes => no
  | no => yes
  | unknown => unknown

@[simp]
theorem negate_negate (t : Truth) : t.negate.negate = t := by
  cases t <;> rfl

end Truth

/-! ## Conditions -/

/-- A condition on the columns of a table, over the values `β` that columns are
compared with. -/
inductive Condition (β : Type) where
  | constant (b : Bool)
  | isNull (column : String)
  | compare (column : Column) (relation : Relation) (operand : β)
  | contains (column : String) (needle : String)
  | conj (conditions : List (Condition β))
  | disj (conditions : List (Condition β))
  | negation (condition : Condition β)

namespace Condition

/-- The condition is a constant. -/
def isConstant {β : Type} (b : Bool) : Condition β → Bool
  | constant c => b == c
  | _ => false

/-- The members of a conjunction, or the condition alone. -/
def conjuncts {β : Type} : Condition β → List (Condition β)
  | conj conditions => conditions
  | condition => [condition]

/-- The members of a disjunction, or the condition alone. -/
def disjuncts {β : Type} : Condition β → List (Condition β)
  | disj conditions => conditions
  | condition => [condition]

/-- A conjunction without constants and without conjunctions as members: true
members are left out, and a false one decides. -/
def foldConj {β : Type} (conditions : List (Condition β)) : Condition β :=
  if conditions.any (isConstant false) then constant false
  else
    match (conditions.filter fun c => !isConstant true c).flatMap conjuncts with
    | [] => constant true
    | [condition] => condition
    | kept => conj kept

/-- A disjunction without constants and without disjunctions as members: false
members are left out, and a true one decides. -/
def foldDisj {β : Type} (conditions : List (Condition β)) : Condition β :=
  if conditions.any (isConstant true) then constant true
  else
    match (conditions.filter fun c => !isConstant false c).flatMap disjuncts with
    | [] => constant false
    | [condition] => condition
    | kept => disj kept

/-- The opposite of a condition.  Constants and comparisons change at once, and so
do tests that are negated already. -/
def opposite {β : Type} : Condition β → Condition β
  | constant b => constant (!b)
  | compare column relation operand => compare column relation.opposite operand
  | negation (isNull column) => isNull column
  | negation (contains column needle) => contains column needle
  | condition => negation condition

/-! ## From predicates -/

/-- The relation of an ordering operator and of an equation. -/
def relation? : Operator → Option Relation
  | .eq => some .eq
  | .ne => some .ne
  | .gt => some .gt
  | .ge => some .ge
  | .lt => some .lt
  | .le => some .le
  | .contains => none

/-- The condition of a comparison.  Nothing can only be equal or different, truth
values have no order, and only texts are contained in something. -/
def ofComparison (column : Column) (op : Operator) (value : Value) :
    Except Failure (Condition Value) :=
  match op, value with
  | .eq, .null => .ok (isNull column.name)
  | .ne, .null => .ok (negation (isNull column.name))
  | .eq, value => .ok (compare column .eq value)
  | .ne, value => .ok (compare column .ne value)
  | .contains, .text needle => .ok (contains column.name needle)
  | .contains, _ => .error .mismatch
  | _, .null | _, .bool _ => .error (.engine .argument)
  | op, value =>
      match relation? op with
      | some relation => .ok (compare column relation value)
      | none => .error .mismatch

mutual
/-- The condition of a predicate on the properties of an entity. -/
def ofPredicate (s : Schema) : Predicate → Except Failure (Condition Value)
  | .compare name op value =>
      match s.column name with
      | .ok column => ofComparison column op value
      | .error failure => .error failure
  | .all predicates =>
      match ofPredicates s predicates with
      | .ok conditions => .ok (foldConj conditions)
      | .error failure => .error failure
  | .any predicates =>
      match ofPredicates s predicates with
      | .ok conditions => .ok (foldDisj conditions)
      | .error failure => .error failure
  | .not predicate =>
      match ofPredicate s predicate with
      | .ok condition => .ok (opposite condition)
      | .error failure => .error failure
  | .foreign _ => .error (.invalidArgument "unsupported predicate type Opaque" [])

/-- The conditions of several predicates; the first failure decides. -/
def ofPredicates (s : Schema) : List Predicate → Except Failure (List (Condition Value))
  | [] => .ok []
  | predicate :: predicates =>
      match ofPredicate s predicate with
      | .error failure => .error failure
      | .ok condition =>
          match ofPredicates s predicates with
          | .error failure => .error failure
          | .ok conditions => .ok (condition :: conditions)
end

/-! ## Sending the values -/

mutual
/-- The condition with its values sent to the database, from left to right. -/
def send : Condition Value → Except Failure (Condition Cell)
  | constant b => .ok (constant b)
  | isNull column => .ok (isNull column)
  | compare column relation value =>
      match bindValue value with
      | .ok cell => .ok (compare column relation cell)
      | .error failure => .error failure
  | contains column needle => .ok (contains column needle)
  | conj conditions =>
      match sendAll conditions with
      | .ok sent => .ok (conj sent)
      | .error failure => .error failure
  | disj conditions =>
      match sendAll conditions with
      | .ok sent => .ok (disj sent)
      | .error failure => .error failure
  | negation condition =>
      match send condition with
      | .ok sent => .ok (negation sent)
      | .error failure => .error failure

/-- Several conditions with their values sent. -/
def sendAll : List (Condition Value) → Except Failure (List (Condition Cell))
  | [] => .ok []
  | condition :: conditions =>
      match send condition with
      | .error failure => .error failure
      | .ok sent =>
          match sendAll conditions with
          | .error failure => .error failure
          | .ok rest => .ok (sent :: rest)
end

/-! ## Evaluation -/

/-- The answer of a search in a cell. -/
def cellContains (needle : String) (c : Cell) : Option Bool :=
  c.toText?.map fun hay => likeContains needle.toList hay.toList

mutual
/-- The answer of a condition for a record. -/
def truth : Condition Cell → Record → Truth
  | constant b, _ => .ofBool b
  | isNull column, r => .ofBool (r.cell column == .null)
  | compare column relation cell, r =>
      .ofOption (compareCells column.kind relation (r.cell column.name) cell)
  | contains column needle, r => .ofOption (cellContains needle (r.cell column))
  | conj conditions, r => truthAll conditions r
  | disj conditions, r => truthAny conditions r
  | negation condition, r => (truth condition r).negate

/-- The answer of a conjunction. -/
def truthAll : List (Condition Cell) → Record → Truth
  | [], _ => .yes
  | condition :: conditions, r => (truth condition r).and (truthAll conditions r)

/-- The answer of a disjunction. -/
def truthAny : List (Condition Cell) → Record → Truth
  | [], _ => .no
  | condition :: conditions, r => (truth condition r).or (truthAny conditions r)
end

/-- A record is selected when the answer is yes. -/
def selects (condition : Condition Cell) (r : Record) : Bool := condition.truth r == .yes

theorem negate_ofBool (b : Bool) : (Truth.ofBool b).negate = .ofBool !b := by
  cases b <;> rfl

theorem compareCells_opposite (kind : ColumnKind) (relation : Relation) (stored sent : Cell) :
    compareCells kind relation.opposite stored sent =
      (compareCells kind relation stored sent).map (!·) := by
  unfold compareCells
  simp only
  split
  · rfl
  · simp [accepts_opposite]

theorem truth_opposite (condition : Condition Cell) (r : Record) :
    truth condition.opposite r = (truth condition r).negate := by
  unfold opposite
  split
  · simp [truth, negate_ofBool]
  · rename_i column relation operand
    simp only [truth, compareCells_opposite]
    cases compareCells column.kind relation (r.cell column.name) operand with
    | none => rfl
    | some b => cases b <;> rfl
  · simp [truth]
  · simp [truth]
  · simp [truth]

@[simp]
theorem truth_conj_nil (r : Record) : truth (conj []) r = .yes := by
  simp [truth, truthAll]

@[simp]
theorem truth_disj_nil (r : Record) : truth (disj []) r = .no := by
  simp [truth, truthAny]

end Condition

end Relational
end PagedQuery
