import Mathlib.Data.Int.Order.Basic
import Mathlib.Data.List.Nodup
import Mathlib.Data.String.Basic
import PagedQuery.Proofs.ConditionTruth
import PagedQuery.Proofs.ThreeValued
import PagedQuery.Relational.Selection

/-!
# Tables of whole numbers and texts

In a typed table every column holds nothing or values of its own kind.  A record of
such a table, shown as a mapping, is a row on which predicates can be evaluated.  The
condition that a database makes of a predicate then gives the answer that the predicate
has on the row, with open answers where a property is nothing.

Main results:

- Theorem `property_toMapping`: the mapping of a record has its cells as properties.
- Theorem `compare_stored`: cells of one kind compare as their values do.
- Theorem `compiles_of_builtFrom`: the condition of a predicate has its answers.
- Theorem `settles_toMapping`: evaluation on the row of a record fits these answers.
-/

namespace PagedQuery
namespace Relational

/-! ## Typed records -/

/-- A cell of the kind that a column prefers. -/
def ColumnKind.Stores : ColumnKind → Cell → Prop
  | .integer, cell => ∃ n, cell = .integer n
  | .text, cell => ∃ s, cell = .text s

/-- Whether a cell is of some kind can be decided. -/
instance (kind : ColumnKind) (cell : Cell) : Decidable (kind.Stores cell) :=
  match kind, cell with
  | .integer, .integer n => isTrue ⟨n, rfl⟩
  | .text, .text s => isTrue ⟨s, rfl⟩
  | .integer, .null | .integer, .real _ | .integer, .text _ =>
      isFalse fun ⟨_, h⟩ => nomatch h
  | .text, .null | .text, .integer _ | .text, .real _ =>
      isFalse fun ⟨_, h⟩ => nomatch h

/-- A value of the kind that a column prefers, which can be sent to the database. -/
def ColumnKind.Holds : ColumnKind → Value → Prop
  | .integer, value => ∃ n, value = .int n ∧ fitsInteger n = true
  | .text, value => ∃ s, value = .text s

/-- A record has nothing, or a cell of the right kind, in every column. -/
def Record.IsTyped (s : Schema) (r : Record) : Prop :=
  ∀ name c, s.column? name = some c → r.cell name = .null ∨ c.kind.Stores (r.cell name)

/-- A record is typed when each of the columns has nothing or a cell of its kind. -/
theorem Record.isTyped_of_columns {s : Schema} {r : Record}
    (h : ∀ c ∈ s.columns, r.cell c.name = .null ∨ c.kind.Stores (r.cell c.name)) :
    r.IsTyped s := by
  intro name c hc
  obtain ⟨hmem, hname⟩ := Schema.column?_mem hc
  exact hname ▸ h c hmem

/-- The records of a table are typed, and one column tells them apart. -/
structure Table.IsTyped (t : Table) (id : String) : Prop where
  typed : ∀ r ∈ t.records, r.IsTyped t.schema
  keyed : t.schema.key = [id]
  mapped : ∃ c, t.schema.column? id = some c
  there : ∀ r ∈ t.records, r.cell id ≠ .null
  unique : (t.records.map fun r => r.cell id).Nodup

/-- The key of a typed record is one cell of a kind. -/
theorem Table.IsTyped.stores {t : Table} {id : String} (h : t.IsTyped id) :
    ∃ kind : ColumnKind, ∀ r ∈ t.records, kind.Stores (r.cell id) := by
  obtain ⟨c, hc⟩ := h.mapped
  refine ⟨c.kind, ?_⟩
  intro r hr
  rcases h.typed r hr id c hc with hnull | hstores
  · exact absurd hnull (h.there r hr)
  · exact hstores

/-- Records with the same key are the same. -/
theorem Table.IsTyped.eq_of_cell {t : Table} {id : String} (h : t.IsTyped id)
    {a b : Record} (ha : a ∈ t.records) (hb : b ∈ t.records) (hab : a.cell id = b.cell id) :
    a = b :=
  List.inj_on_of_nodup_map h.unique ha hb hab

/-- A record as a mapping of its properties. -/
def Record.toMapping (r : Record) : Value := .mapping r.values

/-- Entries that keep their names are found as before, with their new values. -/
theorem lookup_map_entries {α β : Type} {f : String × α → String × β} {g : String → α → β}
    (hf : ∀ entry, f entry = (entry.1, g entry.1 entry.2)) (entries : List (String × α))
    (name : String) : (entries.map f).lookup name = (entries.lookup name).map (g name) := by
  induction entries with
  | nil => rfl
  | cons entry entries ih =>
      rw [List.map_cons, hf, List.lookup_cons, List.lookup_cons, ih]
      cases hname : name == entry.1 with
      | true => rw [beq_iff_eq.1 hname]; rfl
      | false => rfl

/-- The values of a record are those of its cells. -/
theorem lookup_values (r : Record) (name : String) :
    r.values.lookup name = (r.lookup name).map Cell.toValue :=
  lookup_map_entries (g := fun _ => Cell.toValue) (fun _ => rfl) r name

/-- The mapping of a record has its cells as properties. -/
theorem property_toMapping (r : Record) (name : String) :
    r.toMapping.property name = (r.cell name).toValue := by
  rw [Record.toMapping, Value.property, lookup_values, Record.cell]
  cases r.lookup name <;> rfl

/-! ## Comparing cells of one kind -/

/-- A cell of some kind is not nothing. -/
theorem ne_null_of_stores {kind : ColumnKind} {cell : Cell} (h : kind.Stores cell) :
    cell ≠ .null := by
  cases kind <;> obtain ⟨x, rfl⟩ := h <;> simp

/-- The value of a cell of some kind is there. -/
theorem isNull_of_stores {kind : ColumnKind} {cell : Cell} (h : kind.Stores cell) :
    cell.toValue.isNull = false := by
  cases kind <;> obtain ⟨x, rfl⟩ := h <;> rfl

/-- A cell keeps its kind. -/
theorem towards_of_stores {kind : ColumnKind} {cell : Cell} (h : kind.Stores cell) :
    cell.towards kind = cell := by
  cases kind <;> obtain ⟨x, rfl⟩ := h <;> rfl

/-- Values of cells of one kind are equal when the cells are, and stand as the cells
do. -/
theorem stands_of_stores {kind : ColumnKind} {a b : Cell} (ha : kind.Stores a)
    (hb : kind.Stores b) :
    a.toValue.agree b.toValue = (a.order b == .eq) ∧
      a.toValue.standing b.toValue = .ofOrdering (a.order b) := by
  cases kind with
  | integer =>
      obtain ⟨m, rfl⟩ := ha
      obtain ⟨n, rfl⟩ := hb
      refine ⟨?_, rfl⟩
      rw [Cell.toValue, Cell.toValue, Value.agree_int, Cell.order_integer, Bool.eq_iff_iff,
        beq_iff_eq, beq_iff_eq, compare_eq_iff_eq]
  | text =>
      obtain ⟨s, rfl⟩ := ha
      obtain ⟨t, rfl⟩ := hb
      refine ⟨?_, Value.standing_text s t⟩
      rw [Cell.toValue, Cell.toValue, Cell.order_text, Bool.eq_iff_iff, beq_iff_eq,
        compare_eq_iff_eq, Value.agree, beq_iff_eq]

/-- The operators of order and equation are the relations of a database. -/
theorem relation_of_operator {op : Operator} (h : op ≠ .contains) :
    ∃ relation, Condition.relation? op = some relation := by
  cases op with
  | contains => exact absurd rfl h
  | _ => exact ⟨_, rfl⟩

/-- An operator compares values that stand in an order as its relation does. -/
theorem compare_of_standing {op : Operator} {relation : Relation} {v w : Value} {o : Ordering}
    (hrelation : Condition.relation? op = some relation) (hagree : v.agree w = (o == .eq))
    (hstanding : v.standing w = .ofOrdering o) :
    op.compare v w = .ok (relation.accepts o) := by
  cases op with
  | contains => cases hrelation
  | eq =>
      cases hrelation
      rw [Operator.compare, hagree]
      rfl
  | ne =>
      cases hrelation
      rw [Operator.compare, hagree]
      rfl
  | _ =>
      cases hrelation
      rw [Operator.compare, orderAnswer, hstanding]
      cases o <;> rfl

/-- Cells of one kind compare as their values do. -/
theorem compare_stored {kind : ColumnKind} {op : Operator} {relation : Relation} {a b : Cell}
    (hrelation : Condition.relation? op = some relation) (ha : kind.Stores a)
    (hb : kind.Stores b) :
    op.compare a.toValue b.toValue = .ok (relation.accepts (a.order b)) :=
  compare_of_standing hrelation (stands_of_stores ha hb).1 (stands_of_stores ha hb).2

/-- A value of some kind is sent as a cell of that kind. -/
theorem bind_of_holds {kind : ColumnKind} {value : Value} (h : kind.Holds value) :
    ∃ cell, bindValue value = .ok cell ∧ kind.Stores cell ∧ cell.toValue = value := by
  cases kind with
  | integer =>
      obtain ⟨n, rfl, hfits⟩ := h
      refine ⟨.integer n, ?_, ⟨n, rfl⟩, rfl⟩
      rw [bindValue, sendValue, hfits]
      rfl
  | text =>
      obtain ⟨s, rfl⟩ := h
      exact ⟨.text s, bind_text s, ⟨s, rfl⟩, rfl⟩

/-- A comparison with a value of some kind becomes one condition. -/
theorem ofComparison_of_holds {column : Column} {op : Operator} {relation : Relation}
    {value : Value} (h : column.kind.Holds value)
    (hrelation : Condition.relation? op = some relation) :
    Condition.ofComparison column op value = .ok (.compare column relation value) := by
  have hform : (∃ n, value = .int n) ∨ ∃ s, value = .text s := by
    cases hkind : column.kind with
    | integer =>
        rw [hkind] at h
        obtain ⟨n, rfl, -⟩ := h
        exact Or.inl ⟨n, rfl⟩
    | text =>
        rw [hkind] at h
        obtain ⟨s, rfl⟩ := h
        exact Or.inr ⟨s, rfl⟩
  rcases hform with ⟨n, rfl⟩ | ⟨s, rfl⟩
  · cases op <;> cases hrelation <;> rfl
  · cases op <;> cases hrelation <;> rfl

/-! ## Comparisons on typed records -/

/-- A comparison of a column of an entity with a value of the kind of the column. -/
def Schema.Compares (s : Schema) (name : String) (op : Operator) (value : Value) : Prop :=
  op ≠ .contains ∧ ∃ c, s.column? name = some c ∧ c.kind.Holds value

/-- On a typed record such a comparison is defined. -/
theorem isDefinedOn_of_compares {s : Schema} {name : String} {op : Operator} {value : Value}
    (h : s.Compares name op value) {r : Record} (hr : r.IsTyped s) :
    Predicate.IsDefinedOn r.toMapping name op value := by
  obtain ⟨hop, c, hc, hholds⟩ := h
  obtain ⟨relation, hrelation⟩ := relation_of_operator hop
  obtain ⟨cell, -, hstores, rfl⟩ := bind_of_holds hholds
  rcases hr name c hc with hnull | hstored
  · exact ⟨false, Predicate.compare_null (by rw [property_toMapping, hnull]; rfl) op _⟩
  · refine ⟨relation.accepts ((r.cell name).order cell), ?_⟩
    rw [Predicate.holds_compare, property_toMapping, isNull_of_stores hstored,
      if_neg Bool.false_ne_true]
    exact compare_stored hrelation hstored hstores

/-- The condition of a comparison gives the answer of the comparison. -/
theorem truth_compare {s : Schema} {name : String} {op : Operator} {c : Column}
    {relation : Relation} {cell : Cell} (hc : s.column? name = some c)
    (hrelation : Condition.relation? op = some relation) (hcell : c.kind.Stores cell)
    {r : Record} (hr : r.IsTyped s) :
    Condition.truth (.compare c relation cell) r =
      (Predicate.compare name op cell.toValue).answer r.toMapping := by
  rw [Condition.truth, Predicate.answer, property_toMapping, (Schema.column?_mem hc).2]
  rcases hr name c hc with hnull | hstored
  · rw [hnull, compareCells_null]
    rfl
  · have hthere : (r.cell name == .null) = false := by
      simpa using ne_null_of_stores hstored
    have hsent : (cell == .null) = false := by
      simpa using ne_null_of_stores hcell
    rw [isNull_of_stores hstored, compare_stored hrelation hstored hcell, compareCells,
      towards_of_stores hcell, hthere, hsent]
    simp only [Bool.or_false, Bool.false_eq_true, if_false, Predicate.answerOf]
    cases relation.accepts ((r.cell name).order cell) <;> rfl

/-! ## Conditions of predicates -/

/-- A predicate becomes a condition that looks for no texts and, when its values are
sent, gives the answers of the predicate on typed records. -/
structure Compiles (s : Schema) (p : Predicate) (c : Condition Value) (d : Condition Cell) :
    Prop where
  made : Condition.ofPredicate s p = .ok c
  sent : Condition.Sends c d
  searchless : Condition.Searchless d
  truth : ∀ r : Record, r.IsTyped s → Condition.truth d r = p.answer r.toMapping

/-- Several predicates become conditions, one each. -/
structure CompileAll (s : Schema) (ps : List Predicate) (cs : List (Condition Value))
    (ds : List (Condition Cell)) : Prop where
  made : Condition.ofPredicates s ps = .ok cs
  sent : List.Forall₂ Condition.Sends cs ds
  searchless : ∀ d ∈ ds, Condition.Searchless d
  all : ∀ r : Record, r.IsTyped s →
    Condition.truthAll ds r = Predicate.answerAll ps r.toMapping
  any : ∀ r : Record, r.IsTyped s →
    Condition.truthAny ds r = Predicate.answerAny ps r.toMapping

/-- Several predicates become conditions when each of them becomes one. -/
theorem compileAll_of_compiles {s : Schema} {ps : List Predicate}
    (h : ∀ p ∈ ps, ∃ c d, Compiles s p c d) : ∃ cs ds, CompileAll s ps cs ds := by
  induction ps with
  | nil =>
      refine ⟨[], [], ?_, .nil, List.forall_mem_nil _, ?_, ?_⟩
      · rw [Condition.ofPredicates]
      · intro r _
        rw [Condition.truthAll, Predicate.answerAll]
      · intro r _
        rw [Condition.truthAny, Predicate.answerAny]
  | cons p ps ih =>
      obtain ⟨c, d, hfirst⟩ := h p (by simp)
      obtain ⟨cs, ds, hrest⟩ := ih fun q hq => h q (by simp [hq])
      refine ⟨c :: cs, d :: ds, ?_, .cons hfirst.sent hrest.sent, ?_, ?_, ?_⟩
      · rw [Condition.ofPredicates, hfirst.made, hrest.made]
      · exact List.forall_mem_cons.2 ⟨hfirst.searchless, hrest.searchless⟩
      · intro r hr
        rw [Condition.truthAll, Predicate.answerAll, hfirst.truth r hr, hrest.all r hr]
      · intro r hr
        rw [Condition.truthAny, Predicate.answerAny, hfirst.truth r hr, hrest.any r hr]

/-- A predicate that is built from comparisons of columns with values of their kind
becomes a condition with the answers of the predicate. -/
theorem compiles_of_builtFrom {s : Schema} {negations : Bool} {p : Predicate}
    (h : p.BuiltFrom s.Compares negations) : ∃ c d, Compiles s p c d := by
  induction h with
  | compare h =>
      obtain ⟨hop, column, hcolumn, hholds⟩ := h
      obtain ⟨relation, hrelation⟩ := relation_of_operator hop
      obtain ⟨cell, hcell, hstores, rfl⟩ := bind_of_holds hholds
      refine ⟨_, _, ?_, Condition.sends_compare hcell, .compare column relation cell, ?_⟩
      · rw [Condition.ofPredicate, Schema.column, hcolumn]
        exact ofComparison_of_holds hholds hrelation
      · intro r hr
        exact truth_compare hcolumn hrelation hstores hr
  | all _ ih =>
      obtain ⟨cs, ds, hall⟩ := compileAll_of_compiles ih
      refine ⟨_, _, ?_, Condition.sends_foldConj hall.sent,
        Condition.searchless_foldConj hall.searchless, ?_⟩
      · rw [Condition.ofPredicate, hall.made]
      · intro r hr
        rw [Condition.truth_foldConj, Predicate.answer, hall.all r hr]
  | any _ ih =>
      obtain ⟨cs, ds, hall⟩ := compileAll_of_compiles ih
      refine ⟨_, _, ?_, Condition.sends_foldDisj hall.sent,
        Condition.searchless_foldDisj hall.searchless, ?_⟩
      · rw [Condition.ofPredicate, hall.made]
      · intro r hr
        rw [Condition.truth_foldDisj, Predicate.answer, hall.any r hr]
  | not _ _ ih =>
      obtain ⟨c, d, hinner⟩ := ih
      refine ⟨_, _, ?_, Condition.sends_opposite hinner.sent,
        Condition.searchless_opposite hinner.searchless, ?_⟩
      · rw [Condition.ofPredicate, hinner.made]
      · intro r hr
        rw [Condition.truth_opposite, Predicate.answer, hinner.truth r hr]

/-- Evaluation on the row of a typed record ends, and its truth fits the answer. -/
theorem settles_toMapping {s : Schema} {negations : Bool} {p : Predicate}
    (h : p.BuiltFrom s.Compares negations) {r : Record} (hr : r.IsTyped s) :
    p.Settles negations r.toMapping := by
  apply Predicate.settles_of_builtFrom
  apply h.mono
  intro name op value hcompares
  exact isDefinedOn_of_compares hcompares hr

end Relational
end PagedQuery
