import PagedQuery.Relational.Condition
import PagedQuery.SortKey

/-!
# Paths to records

In the embedded engine a statement meets the records of a table along a path: in the
order of the table, along its key, or, for a disjunction, those of one member after
those of another.  A condition opens a path along the key when it bounds the first
column of the key, and one along a disjunction when each member, with what holds
besides, opens a path.  Of all paths the cheapest one is taken, unless a dearer one
spares a sort.

Costs are on a scale on which ten more is twice as much, for a table of which
nothing is known but a million records.

Main results:

- Theorem `scan_perm`: every record is met once.
-/

namespace PagedQuery
namespace Relational

/-! ## Costs -/

/-- What the larger of two costs gains from the other one, by their distance. -/
def costGain (distance : Nat) : Nat :=
  if distance ≤ 1 then 10
  else if distance ≤ 3 then 9
  else if distance ≤ 5 then 8
  else if distance ≤ 8 then 7
  else if distance ≤ 11 then 6
  else if distance ≤ 14 then 5
  else if distance ≤ 18 then 4
  else if distance ≤ 24 then 3
  else if distance ≤ 31 then 2
  else if distance ≤ 49 then 1
  else 0

/-- The cost of two things together. -/
def joinCosts (a b : Nat) : Nat := max a b + costGain (max a b - min a b)

/-- The cost of doing something a number of times. -/
def costOfCount (n : Nat) : Nat :=
  let steps := [0, 2, 3, 5, 6, 7, 8, 9]
  10 * n.log2 + (steps[8 * n / 2 ^ n.log2 - 8]?).getD 0

/-- The cost of all records. -/
def wholeCost : Nat := 216

/-- The cost of the records above a bound of the key, or below one. -/
def halfBoundCost : Nat := 196

/-- The cost of the records between two bounds of the key. -/
def boundCost : Nat := 156

/-- A path that costs less is worth sorting its records. -/
def sortingCost : Nat := 160

/-! ## Bounds of the key -/

/-- How conditions bound a column. -/
structure Bounds where
  fixed : Bool
  below : Bool
  above : Bool
  deriving DecidableEq, Repr

namespace Condition

/-- The condition compares a column by one of some relations. -/
def relates (name : String) (relations : List Relation) : Condition Cell → Bool
  | compare column relation _ => column.name == name && relations.contains relation
  | _ => false

/-- The number of values of which a column must equal one. -/
def choices? (name : String) : Condition Cell → Option Nat
  | disj conditions =>
      if conditions.all (relates name [.eq]) then some conditions.length else none
  | _ => none

/-- The bounds that conditions set together. -/
def boundsOf (name : String) (conditions : List (Condition Cell)) : Bounds where
  fixed := conditions.any (relates name [.eq])
  below := conditions.any (relates name [.gt, .ge])
  above := conditions.any (relates name [.lt, .le])

/-- The cost of the records with one value in the first column of a key. -/
def fixedCost (conditions : List (Condition Cell)) : List String → Nat
  | [] => 45
  | second :: _ =>
      match boundsOf second conditions with
      | ⟨true, _, _⟩ => 45
      | ⟨_, true, true⟩ => 47
      | ⟨_, false, false⟩ => 56
      | _ => 48

/-- The cost of the records that conditions leave of a key, if they bound its first
column. -/
def keyCost? (conditions : List (Condition Cell)) : List String → Option Nat
  | [] => none
  | first :: rest =>
      let one := fixedCost conditions rest
      match boundsOf first conditions, (conditions.filterMap (choices? first)).min? with
      | ⟨true, _, _⟩, _ => some one
      | _, some n => some (one + costOfCount n)
      | ⟨_, true, true⟩, none => some boundCost
      | ⟨_, false, false⟩, none => none
      | _, none => some halfBoundCost

end Condition

/-! ## Paths -/

/-- A way to meet all records of a table. -/
structure Path where
  cost : Nat
  /-- The records in the order in which they are met. -/
  meets : List Record → List Record
  /-- The records are met in the order of the key, or of the table. -/
  plain : Bool
  meets_perm : ∀ records, (meets records).Perm records

/-- Records in the order of the key of their table. -/
def keyOrder (s : Schema) (records : List Record) : List Record :=
  if s.hasIntegerKey then records
  else records.mergeSort fun a b => compareKeys (a.cells s.key) (b.cells s.key) != .gt

theorem keyOrder_perm (s : Schema) (records : List Record) :
    (keyOrder s records).Perm records := by
  unfold keyOrder
  split
  · exact List.Perm.refl records
  · exact List.mergeSort_perm records _

/-- The records that meet a condition in front of all others, each part in an order
of its own. -/
def inFront (p : Record → Bool) (first rest : List Record → List Record)
    (records : List Record) : List Record :=
  first (records.filter p) ++ rest (records.filter fun r => !p r)

theorem filter_perm (p : Record → Bool) (records : List Record) :
    (records.filter p ++ records.filter fun r => !p r).Perm records := by
  induction records with
  | nil => exact List.Perm.refl []
  | cons r records ih =>
      cases h : p r with
      | true =>
          simp only [h, Bool.not_true, List.filter_cons_of_pos, List.cons_append,
            Bool.false_eq_true, not_false_eq_true, List.filter_cons_of_neg]
          exact ih.cons r
      | false =>
          simp only [h, Bool.not_false, List.filter_cons_of_pos, Bool.false_eq_true,
            not_false_eq_true, List.filter_cons_of_neg]
          exact List.perm_middle.trans (ih.cons r)

theorem inFront_perm (p : Record → Bool) {first rest : List Record → List Record}
    (hf : ∀ records, (first records).Perm records)
    (hr : ∀ records, (rest records).Perm records) (records : List Record) :
    (inFront p first rest records).Perm records :=
  ((hf _).append (hr _)).trans (filter_perm p records)

namespace Path

/-- The whole table in its order. -/
def whole : Path := ⟨wholeCost, id, true, List.Perm.refl⟩

/-- The records along the key, where conditions bound it. -/
def alongKey? (s : Schema) (conditions : List (Condition Cell)) : Option Path :=
  (Condition.keyCost? conditions s.key).map fun cost =>
    ⟨cost, keyOrder s, true, keyOrder_perm s⟩

/-- The records of a condition before those of the others. -/
def before (p : Record → Bool) (first rest : Path) : Path where
  cost := joinCosts first.cost rest.cost
  meets := inFront p first.meets rest.meets
  plain := false
  meets_perm := inFront_perm p first.meets_perm rest.meets_perm

/-- The cheaper one of two paths, the first one if they cost the same. -/
def cheaper? : Option Path → Option Path → Option Path
  | some a, some b => some (if b.cost < a.cost then b else a)
  | some a, none => some a
  | none, b => b

mutual
/-- The cheapest path that a condition opens among others that hold as well. -/
def ofCondition? (s : Schema) (others : List (Condition Cell)) :
    Condition Cell → Option Path
  | .conj conditions =>
      cheaper? (alongKey? s (conditions ++ others))
        (ofSome? s (conditions ++ others) conditions)
  | .disj conditions =>
      cheaper? (alongKey? s (.disj conditions :: others))
        ((ofEach? s others conditions).map fun path => { path with cost := path.cost + 1 })
  | condition => alongKey? s (condition :: others)

/-- The cheapest path that one of several conditions opens. -/
def ofSome? (s : Schema) (others : List (Condition Cell)) :
    List (Condition Cell) → Option Path
  | [] => none
  | condition :: conditions =>
      cheaper? (ofCondition? s others condition) (ofSome? s others conditions)

/-- The path along the paths that each of several conditions opens. -/
def ofEach? (s : Schema) (others : List (Condition Cell)) :
    List (Condition Cell) → Option Path
  | [] => none
  | [condition] => ofCondition? s others condition
  | condition :: conditions =>
      match ofCondition? s others condition, ofEach? s others conditions with
      | some first, some rest => some (first.before condition.selects rest)
      | _, _ => none
end

/-- A path if there is one that is cheaper than the whole table. -/
def orWhole : Option Path → Path
  | some path => if path.cost < wholeCost then path else whole
  | none => whole

/-- The path that is taken for a condition. -/
def ofCondition (s : Schema) (condition : Condition Cell) : Path :=
  orWhole (ofCondition? s [] condition)

/-- The path in the order of the key or of the table that is taken for a condition. -/
def plainOf (s : Schema) (condition : Condition Cell) : Path :=
  orWhole (alongKey? s condition.conjuncts)

end Path

/-! ## Sorted statements -/

/-- The records along the key, from its end when that is wanted. -/
def alongOrder (s : Schema) (backwards : Bool) (records : List Record) : List Record :=
  if backwards then (keyOrder s records).reverse else keyOrder s records

theorem alongOrder_perm (s : Schema) (backwards : Bool) (records : List Record) :
    (alongOrder s backwards records).Perm records := by
  unfold alongOrder
  split
  · exact (List.reverse_perm _).trans (keyOrder_perm s records)
  · exact keyOrder_perm s records

/-- A statement is sorted by the first column of the key before all others. -/
def sortsByKey (s : Schema) (order : List SortKey) : Bool :=
  match order.head?, s.key.head? with
  | some key, some first => key.field == first
  | _, _ => false

/-- A condition leaves a column but one value. -/
def fixes (condition : Condition Cell) (name : String) : Bool :=
  (Condition.boundsOf name condition.conjuncts).fixed

/-- A sort goes through the key from its end, unless the key has but one value. -/
def goesBackwards (s : Schema) (order : List SortKey) (condition : Condition Cell) : Bool :=
  match order.head?, s.key.head? with
  | some key, some first => key.direction == .desc && !fixes condition first
  | _, _ => false

/-- A statement is sorted downwards by the second column of a key of which a condition
leaves some values in the first column. -/
def sortsPartsDown (s : Schema) (order : List SortKey) (condition : Condition Cell) : Bool :=
  match order.head?, s.key with
  | some key, first :: second :: _ =>
      key == ⟨second, .desc⟩ && !fixes condition first &&
        condition.conjuncts.any fun c => (Condition.choices? first c).isSome
  | _, _ => false

/-- The records of a table in the order in which a statement meets them.  A path that
is not cheap is not taken when another one spares the sort. -/
def scan (s : Schema) (order : List SortKey) (condition : Condition Cell)
    (records : List Record) : List Record :=
  let path := Path.ofCondition s condition
  let dear := path.plain || sortingCost ≤ path.cost
  if dear && sortsByKey s order then alongOrder s (goesBackwards s order condition) records
  else if dear && !order.isEmpty && order.all fun key => fixes condition key.field then
    (Path.plainOf s condition).meets records
  else if path.plain && sortsPartsDown s order condition then alongOrder s true records
  else path.meets records

theorem scan_perm (s : Schema) (order : List SortKey) (condition : Condition Cell)
    (records : List Record) : (scan s order condition records).Perm records := by
  unfold scan
  simp only
  split
  · exact alongOrder_perm s _ records
  · split
    · exact Path.meets_perm _ records
    · split
      · exact alongOrder_perm s _ records
      · exact Path.meets_perm _ records

end Relational
end PagedQuery
