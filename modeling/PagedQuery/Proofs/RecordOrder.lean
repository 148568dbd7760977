import PagedQuery.Proofs.KeyOrder
import PagedQuery.Proofs.TypedTables

/-!
# The order of records and of their rows

A database orders records by cells, and a list is sorted by the values of properties.
On a typed table both orders are the same, nothing coming before everything else.  When
the identifying column is among the keys, the order leaves no two records in a tie, so
there is but one list of the same records in this order.

Main results:

- Theorem `orderable_column`: the values of a column can be put in order.
- Theorem `compareRecords_standsBefore`: records are ordered as their rows are.
- Theorem `orderRecords_eq`: ordered records and sorted rows are the same list.
-/

namespace PagedQuery
namespace Relational

open Collection

variable {s : Schema} {t : Table} {id : String} {keys : List SortKey}

/-! ## Cells and values -/

/-- A cell is nothing or of some kind. -/
def ColumnKind.Allows (kind : ColumnKind) (cell : Cell) : Prop :=
  cell = .null ∨ kind.Stores cell

/-- A cell stands to another one as that one does to it, the other way around. -/
theorem order_swap {kind : ColumnKind} {a b : Cell} (ha : kind.Allows a) (hb : kind.Allows b) :
    b.order a = (a.order b).swap := by
  rcases ha with rfl | ha
  · rcases hb with rfl | hb
    · rfl
    · cases kind <;> obtain ⟨x, rfl⟩ := hb <;> rfl
  · rcases hb with rfl | hb
    · cases kind <;> obtain ⟨x, rfl⟩ := ha <;> rfl
    · cases kind with
      | integer =>
          obtain ⟨m, rfl⟩ := ha
          obtain ⟨n, rfl⟩ := hb
          rw [Cell.order_integer, Cell.order_integer]
          exact Std.OrientedCmp.eq_swap
      | text =>
          obtain ⟨x, rfl⟩ := ha
          obtain ⟨y, rfl⟩ := hb
          rw [Cell.order_text, Cell.order_text]
          exact Std.OrientedCmp.eq_swap

/-- A value comes before another one when its cell is the lesser one. -/
theorem precedes_toValue {kind : ColumnKind} {a b : Cell} (ha : kind.Allows a)
    (hb : kind.Allows b) : precedes a.toValue b.toValue = (a.order b == .lt) := by
  rcases ha with rfl | ha
  · rcases hb with rfl | hb
    · rfl
    · cases kind <;> obtain ⟨x, rfl⟩ := hb <;> rfl
  · rcases hb with rfl | hb
    · cases kind <;> obtain ⟨x, rfl⟩ := ha <;> rfl
    · rw [precedes_of_not_null (isNull_of_stores ha) (isNull_of_stores hb),
        (stands_of_stores ha hb).2]
      cases a.order b <;> rfl

/-- Cells of some kind that stand at the same place are the same. -/
theorem eq_of_order {kind : ColumnKind} {a b : Cell} (ha : kind.Stores a)
    (hb : kind.Stores b) (h : a.order b = .eq) : a = b := by
  cases kind with
  | integer =>
      obtain ⟨m, rfl⟩ := ha
      obtain ⟨n, rfl⟩ := hb
      rw [Cell.order_integer, compare_eq_iff_eq] at h
      rw [h]
  | text =>
      obtain ⟨x, rfl⟩ := ha
      obtain ⟨y, rfl⟩ := hb
      rw [Cell.order_text, compare_eq_iff_eq] at h
      rw [h]

/-- The values of a column can be put in order. -/
theorem orderable_column {name : String} {c : Column} (hc : s.column? name = some c)
    {records : List Record} (hrecords : ∀ r ∈ records, r.IsTyped s) :
    Orderable (fieldValues name (records.map Record.toMapping)) := by
  have hvalues : ∀ v ∈ fieldValues name (records.map Record.toMapping),
      ∃ cell, c.kind.Allows cell ∧ v = cell.toValue := by
    intro v hv
    rw [fieldValues, List.map_map] at hv
    rcases List.mem_map.1 hv with ⟨r, hr, rfl⟩
    exact ⟨r.cell name, hrecords r hr name c hc, property_toMapping r name⟩
  cases hkind : c.kind with
  | integer =>
      apply orderable_numbers
      intro v hv
      obtain ⟨cell, hallowed, rfl⟩ := hvalues v hv
      rw [hkind] at hallowed
      rcases hallowed with rfl | ⟨n, rfl⟩
      · exact Or.inl rfl
      · exact Or.inr ⟨_, _, rfl, rfl⟩
  | text =>
      apply orderable_texts
      intro v hv
      obtain ⟨cell, hallowed, rfl⟩ := hvalues v hv
      rw [hkind] at hallowed
      rcases hallowed with rfl | ⟨text, rfl⟩
      · exact Or.inl rfl
      · exact Or.inr ⟨text, rfl⟩

/-! ## Records and rows -/

/-- How two records stand to each other by one key. -/
def directed (key : SortKey) (a b : Record) : Ordering :=
  match key.direction with
  | .asc => (a.cell key.field).order (b.cell key.field)
  | .desc => ((a.cell key.field).order (b.cell key.field)).swap

/-- The rows of records may stand in an order by one key unless the first record is the
greater one. -/
theorem allows_toMapping {key : SortKey} {c : Column} (hc : s.column? key.field = some c)
    {a b : Record} (ha : a.IsTyped s) (hb : b.IsTyped s) :
    SortKey.allows key a.toMapping b.toMapping = (directed key a b != .gt) := by
  have hforth := precedes_toValue (ha _ c hc) (hb _ c hc)
  have hback := precedes_toValue (hb _ c hc) (ha _ c hc)
  rw [order_swap (ha _ c hc) (hb _ c hc)] at hback
  rw [SortKey.allows, directed, property_toMapping, property_toMapping]
  cases key.direction with
  | asc =>
      simp only [hback]
      cases (a.cell key.field).order (b.cell key.field) <;> rfl
  | desc =>
      simp only [hforth]
      cases (a.cell key.field).order (b.cell key.field) <;> rfl

/-- By one key a record stands to another one as that one does to it, the other way
around. -/
theorem directed_swap {key : SortKey} {c : Column} (hc : s.column? key.field = some c)
    {a b : Record} (ha : a.IsTyped s) (hb : b.IsTyped s) :
    directed key b a = (directed key a b).swap := by
  rw [directed, directed, order_swap (ha _ c hc) (hb _ c hc)]
  cases key.direction <;> rfl

/-- Records stand to each other as the first key says that does not find them equal. -/
theorem compareRecords_cons (key : SortKey) (keys : List SortKey) (a b : Record) :
    compareRecords (key :: keys) a b = (directed key a b).then (compareRecords keys a b) := by
  rw [compareRecords, directed]
  cases key.direction <;> cases (a.cell key.field).order (b.cell key.field) <;> rfl

/-- Records are ordered as their rows are. -/
theorem compareRecords_standsBefore
    (hkeys : ∀ key ∈ keys, ∃ c, s.column? key.field = some c) {a b : Record}
    (ha : a.IsTyped s) (hb : b.IsTyped s) :
    (compareRecords keys a b != .gt) = true ↔
      standsBefore (fun _ _ => True) keys a.toMapping b.toMapping := by
  induction keys with
  | nil => exact iff_of_true rfl trivial
  | cons key keys ih =>
      obtain ⟨c, hc⟩ := hkeys key (by simp)
      have hrest := ih fun other hother => hkeys other (by simp [hother])
      rw [compareRecords_cons, standsBefore, allows_toMapping hc ha hb,
        allows_toMapping hc hb ha, directed_swap hc ha hb]
      cases directed key a b with
      | lt => simp
      | eq => simpa using hrest
      | gt => simp

/-- The rows of ordered records stand in the order of the keys. -/
theorem orderRecords_standsBefore
    (hkeys : ∀ key ∈ keys, ∃ c, s.column? key.field = some c) {records : List Record}
    (hrecords : ∀ r ∈ records, r.IsTyped s) :
    ((orderRecords keys records).map Record.toMapping).Pairwise
      (standsBefore (fun _ _ => True) keys) := by
  have horderable : ∀ key ∈ keys,
      Orderable (fieldValues key.field (records.map Record.toMapping)) := by
    intro key hkey
    obtain ⟨c, hc⟩ := hkeys key hkey
    exact orderable_column hc hrecords
  have hiff : ∀ a ∈ records, ∀ b ∈ records, (compareRecords keys a b != .gt) = true ↔
      standsBefore (fun _ _ => True) keys a.toMapping b.toMapping := by
    intro a ha b hb
    exact compareRecords_standsBefore hkeys (hrecords a ha) (hrecords b hb)
  have horder : IsOrderOn (fun a b => compareRecords keys a b != .gt) records := by
    constructor
    · intro a ha b hb c hc hab hbc
      rw [hiff a ha b hb] at hab
      rw [hiff b hb c hc] at hbc
      rw [hiff a ha c hc]
      exact standsBefore_trans horderable (List.mem_map_of_mem ha) (List.mem_map_of_mem hb)
        (List.mem_map_of_mem hc) hab hbc
    · intro a ha b hb
      rw [hiff a ha b hb, hiff b hb a ha]
      exact standsBefore_total horderable (List.mem_map_of_mem ha) (List.mem_map_of_mem hb)
  rw [List.pairwise_map]
  apply horder.pairwise_mergeSort.imp_of_mem
  intro a b ha hb hab
  rw [List.mem_mergeSort] at ha hb
  exact (hiff a ha b hb).1 hab

/-- With the identifying column among the keys, only a row itself may stand before and
behind it. -/
theorem eq_of_standsBefore (htyped : t.IsTyped id) (hid : ∃ key ∈ keys, key.field = id)
    {a b : Record} (ha : a ∈ t.records) (hb : b ∈ t.records)
    (hab : standsBefore (fun _ _ => True) keys a.toMapping b.toMapping)
    (hba : standsBefore (fun _ _ => True) keys b.toMapping a.toMapping) : a = b := by
  obtain ⟨key, hkey, rfl⟩ := hid
  obtain ⟨c, hc⟩ := htyped.mapped
  have htypeda := htyped.typed a ha
  have htypedb := htyped.typed b hb
  obtain ⟨hforth, hback⟩ := allows_of_standsBefore hab hba key hkey
  rw [allows_toMapping hc htypeda htypedb] at hforth
  rw [allows_toMapping hc htypedb htypeda, directed_swap hc htypeda htypedb] at hback
  have hsame : (a.cell key.field).order (b.cell key.field) = .eq := by
    rw [directed] at hforth hback
    revert hforth hback
    cases key.direction <;> cases (a.cell key.field).order (b.cell key.field) <;> decide
  obtain ⟨kind, hstores⟩ := htyped.stores
  exact htyped.eq_of_cell ha hb (eq_of_order (hstores a ha) (hstores b hb) hsame)

/-- With the identifying column among the keys, sorted rows of a table are the rows of
the ordered records. -/
theorem orderRecords_eq (htyped : t.IsTyped id)
    (hkeys : ∀ key ∈ keys, ∃ c, t.schema.column? key.field = some c)
    (hid : ∃ key ∈ keys, key.field = id) {records : List Record}
    (hrecords : ∀ r ∈ records, r ∈ t.records) {kept sorted : List Value}
    (hsame : kept.Perm (records.map Record.toMapping))
    (hsorted : sortRows keys kept = .ok sorted) :
    sorted = (orderRecords keys records).map Record.toMapping := by
  have hrecordstyped : ∀ r ∈ records, r.IsTyped t.schema :=
    fun r hr => htyped.typed r (hrecords r hr)
  have hordered := orderRecords_standsBefore hkeys hrecordstyped
  have hstands : sorted.Pairwise (standsBefore (fun _ _ => True) keys) := by
    apply sortRows_standsBefore _ _ hsorted
    · intro key hkey
      obtain ⟨c, hc⟩ := hkeys key hkey
      exact (orderable_column hc hrecordstyped).mono (fieldValues_subset hsame.subset)
    · exact List.pairwise_of_forall fun _ _ => trivial
  have hperm : sorted.Perm ((orderRecords keys records).map Record.toMapping) :=
    (sortRows_perm hsorted).trans
      (hsame.trans ((orderRecords_perm keys records).map Record.toMapping).symm)
  apply hperm.eq_of_pairwise _ hstands hordered
  intro row other hrow hother hforth hback
  rcases List.mem_map.1 (hperm.mem_iff.1 hrow) with ⟨a, ha, rfl⟩
  rcases List.mem_map.1 hother with ⟨b, hb, rfl⟩
  have ha := hrecords a ((orderRecords_perm keys records).mem_iff.1 ha)
  have hb := hrecords b ((orderRecords_perm keys records).mem_iff.1 hb)
  rw [eq_of_standsBefore htyped hid ha hb hforth hback]

end Relational
end PagedQuery
