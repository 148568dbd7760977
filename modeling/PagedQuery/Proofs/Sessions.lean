import PagedQuery.Proofs.KeyOrder
import PagedQuery.Proofs.TypedTables
import PagedQuery.Relational.Database

/-!
# Objects that stand for records

A database shows records as objects, and an object that it knows already is shown again
with the values that it has.  As long as the objects that stand for the records of a
table have their values, records are shown as they are stored, and showing them keeps
it so.

Main results:

- Theorem `cell_of_agree`: a value is equal to at most one cell of a kind.
- Theorem `values_objectOf`: a record is shown with its values.
- Theorem `presented_shows`: records are shown one by one, and objects still mirror
  their records.
-/

namespace PagedQuery
namespace Relational

open Numeric

/-! ## Keys and records -/

/-- A number is equal to at most one whole number. -/
theorem int_of_agree {v : Value} {m n : ℤ} (hm : v.agree (.int m) = true)
    (hn : v.agree (.int n) = true) : m = n := by
  have hnumber : ∃ x, v.number? = some x := by
    cases v with
    | bool b => exact ⟨_, rfl⟩
    | int k => exact ⟨_, rfl⟩
    | double x => exact ⟨_, rfl⟩
    | _ => exact absurd hm (by simp [Value.agree, Value.number?])
  obtain ⟨x, hx⟩ := hnumber
  have hplaces : ∀ k : ℤ, v.agree (.int k) = true →
      x.place? = some (.units (k * unitsPerOne)) := by
    intro k hk
    rw [agree_of_number hx rfl, beq_iff_eq] at hk
    cases hp : x.place? with
    | none =>
        cases x with
        | whole j => exact absurd hp (Option.some_ne_none _)
        | double d =>
            simp only [Number.compare?, hp] at hk
            exact absurd hk (by decide)
    | some p =>
        rw [compare?_of_place hp rfl, Option.some.injEq] at hk
        cases p with
        | bottom => cases hk
        | units u =>
            rw [Place.compare, compare_eq_iff_eq] at hk
            rw [hk]
        | top => cases hk
  have hsame := (hplaces m hm).symm.trans (hplaces n hn)
  rw [Option.some.injEq, Place.units.injEq] at hsame
  exact Int.eq_of_mul_eq_mul_right (ne_of_gt unitsPerOne_pos) hsame

/-- A cell stands where it stands. -/
theorem order_refl (cell : Cell) : cell.order cell = .eq := by
  cases cell with
  | null => rfl
  | integer n => rw [Cell.order_integer, compare_eq_iff_eq]
  | text s => rw [Cell.order_text, compare_eq_iff_eq]
  | real x =>
      change ((Number.double x).compare? (.double x)).getD .eq = .eq
      cases hplace : (Number.double x).place? with
      | none => simp [Number.compare?, hplace]
      | some p => rw [compare?_of_place hplace hplace, place_compare_self, Option.getD_some]

/-- A value is equal to at most one cell of a kind. -/
theorem cell_of_agree {kind : ColumnKind} {v : Value} {a b : Cell} (ha : kind.Stores a)
    (hb : kind.Stores b) (hva : v.agree a.toValue = true) (hvb : v.agree b.toValue = true) :
    a = b := by
  cases kind with
  | integer =>
      obtain ⟨m, rfl⟩ := ha
      obtain ⟨n, rfl⟩ := hb
      rw [int_of_agree hva hvb]
  | text =>
      obtain ⟨s, rfl⟩ := ha
      obtain ⟨t, rfl⟩ := hb
      cases v with
      | text u =>
          rw [Cell.toValue, Value.agree, beq_iff_eq] at hva hvb
          rw [← hva, ← hvb]
      | _ => exact absurd hva (by simp [Value.agree, Value.number?, Cell.toValue])

variable {t : Table} {id : String}

/-- The value by which a record is found. -/
theorem Table.IsTyped.valuesOf_key (h : t.IsTyped id) (r : Record) :
    valuesOf t.schema.key r.values = [(r.cell id).toValue] := by
  rw [h.keyed, valuesOf, List.map_cons, List.map_nil, lookup_values, Record.cell]
  cases r.lookup id <;> rfl

/-- An object stands for at most one record. -/
theorem record_of_standsAt (h : t.IsTyped id) {x : Instance} {a b : Record}
    (ha : a ∈ t.records) (hb : b ∈ t.records)
    (hxa : x.standsAt t.schema.entity (valuesOf t.schema.key a.values) = true)
    (hxb : x.standsAt t.schema.entity (valuesOf t.schema.key b.values) = true) : a = b := by
  rw [h.valuesOf_key, Instance.standsAt, Bool.and_eq_true] at hxa hxb
  obtain ⟨-, hxa⟩ := hxa
  obtain ⟨-, hxb⟩ := hxb
  cases hlink : x.link with
  | none =>
      rw [hlink] at hxa
      simp at hxa
  | some l =>
      rw [hlink] at hxa hxb
      simp only [Bool.and_eq_true] at hxa hxb
      obtain ⟨-, hxa⟩ := hxa
      obtain ⟨-, hxb⟩ := hxb
      rw [Value.agree] at hxa hxb
      cases hkey : l.key with
      | nil => simp [hkey, Value.agreeItems] at hxa
      | cons v rest =>
          simp only [hkey, Value.agreeItems, Bool.and_eq_true] at hxa hxb
          obtain ⟨kind, hstores⟩ := h.stores
          exact h.eq_of_cell ha hb (cell_of_agree (hstores a ha) (hstores b hb) hxa.1 hxb.1)

/-! ## Objects with the values of their records -/

/-- The objects that stand for the records of a table have their values, unless they are
read again before they are used. -/
def Mirrors (t : Table) (db : Database) : Prop :=
  ∀ x ∈ db.held, ∀ r ∈ t.records,
    x.standsAt t.schema.entity (valuesOf t.schema.key r.values) = true →
      x.link.any (·.stale) = false → x.values = r.values

/-- A database that knows no objects mirrors its records. -/
theorem mirrors_of_held_nil {db : Database} (h : db.held = []) : Mirrors t db := by
  intro x hx
  rw [h] at hx
  exact absurd hx List.not_mem_nil

/-- An object that is known is one of those known before, or the one that was put. -/
theorem mem_hold {db : Database} {x y : Instance} (h : x ∈ (db.hold y).held) :
    x = y ∨ x ∈ db.held := by
  rw [Database.hold] at h
  split at h
  · rcases List.mem_map.1 h with ⟨z, hz, hx⟩
    split at hx
    · exact Or.inl hx.symm
    · exact Or.inr (hx ▸ hz)
  · rcases List.mem_append.1 h with hold | hnew
    · exact Or.inr hold
    · exact Or.inl (List.mem_singleton.1 hnew)

/-- A record is shown with its values. -/
theorem values_objectOf {db : Database} (h : Mirrors t db) {r : Record}
    (hr : r ∈ t.records) : (db.objectOf t.schema r).values = r.values := by
  rw [Database.objectOf]
  split
  · rename_i x hx
    rw [Database.heldAt?] at hx
    have hstands : x.standsAt t.schema.entity (valuesOf t.schema.key r.values) = true := by
      simpa using List.find?_some hx
    split
    · rfl
    · rename_i hfresh
      exact h x (List.mem_of_find?_eq_some hx) r hr hstands (by simpa using hfresh)
  · rfl

/-- The object of a record stands for it. -/
theorem standsAt_objectOf (htyped : t.IsTyped id) (db : Database) {r : Record}
    (hr : r ∈ t.records) :
    (db.objectOf t.schema r).standsAt t.schema.entity (valuesOf t.schema.key r.values) =
      true := by
  rw [Database.objectOf]
  split
  · rename_i x hx
    rw [Database.heldAt?] at hx
    have hstands : x.standsAt t.schema.entity (valuesOf t.schema.key r.values) = true := by
      simpa using List.find?_some hx
    split
    · -- Reading an object again changes neither its key nor whether it is found by it.
      rw [← hstands, Instance.standsAt, Instance.standsAt, Instance.reread]
      cases x.link <;> rfl
    · exact hstands
  · obtain ⟨kind, hstores⟩ := htyped.stores
    have hself : (r.cell id).toValue.agree (r.cell id).toValue = true := by
      rw [(stands_of_stores (hstores r hr) (hstores r hr)).1, order_refl]
      rfl
    simp [Instance.ofRecord, Instance.standsAt, htyped.valuesOf_key, Value.agree,
      Value.agreeItems, hself]

/-- The object of a record stands for no other record. -/
theorem record_of_objectOf (htyped : t.IsTyped id) {db : Database} {a b : Record}
    (ha : a ∈ t.records) (hb : b ∈ t.records)
    (h : (db.objectOf t.schema a).standsAt t.schema.entity
      (valuesOf t.schema.key b.values) = true) : a = b := by
  exact record_of_standsAt htyped ha hb (standsAt_objectOf htyped db ha) h

/-- Knowing the object of a record keeps objects mirroring their records. -/
theorem mirrors_hold (htyped : t.IsTyped id) {db : Database} (h : Mirrors t db) {r : Record}
    (hr : r ∈ t.records) : Mirrors t (db.hold (db.objectOf t.schema r)) := by
  intro x hx a ha hstands hfresh
  rcases mem_hold hx with rfl | hold
  · rw [← record_of_objectOf htyped hr ha hstands]
    exact values_objectOf h hr
  · exact h x hold a ha hstands hfresh

/-! ## Showing records -/

/-- A shown value is an object with the values of a record. -/
def Shows (shown : Value) (r : Record) : Prop := ∃ label, shown = .object r.values label

/-- Records are shown one by one, and objects still mirror their records. -/
theorem presented_shows (htyped : t.IsTyped id) {records : List Record}
    (hrecords : ∀ r ∈ records, r ∈ t.records) {db : Database} (h : Mirrors t db)
    (entity : String) :
    List.Forall₂ Shows (Database.presented t.schema records db).1 records ∧
      Mirrors t (Database.presented t.schema records db).2 ∧
      (Database.presented t.schema records db).2.table? entity = db.table? entity := by
  induction records generalizing db with
  | nil => exact ⟨.nil, h, rfl⟩
  | cons r records ih =>
      have hr := hrecords r (by simp)
      obtain ⟨hshown, hmirrors, htables⟩ :=
        ih (fun a ha => hrecords a (by simp [ha])) (mirrors_hold htyped h hr)
      rw [Database.presented]
      refine ⟨.cons ?_ hshown, hmirrors, ?_⟩
      · exact ⟨_, by rw [Instance.view, values_objectOf h hr]⟩
      · rw [htables, Database.table?_hold]

end Relational
end PagedQuery
