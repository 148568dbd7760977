import PagedQuery.Proofs.KeyOrder

/-!
# Equality of values

Values that are equal to the same value are equal to each other, whatever their kinds:
numbers are equal when they have the same place, and mappings when they give the same
names to equal values.  A mapping has each of its names once; on such values equality
can be turned around.

Main results:

- Theorem `agree_number_iff`: what is equal to a number.
- Theorem `agree_trans`: equality goes on from value to value.
- Theorem `agree_symm`: equality can be turned around.
- Theorem `agree_congr_left` and Theorem `agree_congr_right`: equal values are equal to
  the same values.
-/

namespace PagedQuery
namespace Value

open Numeric

/-! ## What is equal to a value -/

/-- The places of the extended line are told apart by comparing them. -/
theorem place_compare_eq_iff {p q : Place} : p.compare q = .eq ↔ p = q := by
  cases p <;> cases q <;> simp [Place.compare]

/-- Numbers compare as equal when they have the same place. -/
theorem compare?_eq_iff {x y : Number} :
    x.compare? y = some .eq ↔ ∃ p, x.place? = some p ∧ y.place? = some p := by
  have hnone : x.place? = none ∨ y.place? = none → x.compare? y = none := by
    intro h
    cases x <;> cases y <;> simp only [Number.compare?] <;> grind [Number.place?]
  cases hx : x.place? with
  | none => simp [hnone (.inl hx)]
  | some p =>
      cases hy : y.place? with
      | none => simp [hnone (.inr hy)]
      | some q =>
          rw [compare?_of_place hx hy, Option.some.injEq, place_compare_eq_iff]
          simp [eq_comm]

/-- Two values have the same place among the numbers. -/
def SamePlace (v w : Value) : Prop :=
  ∃ x y p, v.number? = some x ∧ w.number? = some y ∧ x.place? = some p ∧ y.place? = some p

/-- What is equal to a number is a number at the same place. -/
theorem agree_number_iff {v w : Value} {x : Number} (hv : v.number? = some x) :
    v.agree w = true ↔ SamePlace v w := by
  cases hw : w.number? with
  | none =>
      have hfalse : v.agree w = false := by
        cases v <;> simp only [number?, reduceCtorEq] at hv <;> cases w <;>
          simp_all [agree, number?]
      simp [hfalse, SamePlace, hw]
  | some y =>
      rw [agree_of_number hv hw, beq_iff_eq, compare?_eq_iff]
      simp [SamePlace, hv, hw]

/-- Equality goes on from a number. -/
theorem agree_trans_number {v w u : Value} {x : Number} (hv : v.number? = some x)
    (hvw : v.agree w = true) (hwu : w.agree u = true) : v.agree u = true := by
  obtain ⟨x, y, p, hx, hy, hp, hq⟩ := (agree_number_iff hv).1 hvw
  obtain ⟨y', z, p', hy', hz, hp', hq'⟩ := (agree_number_iff hy).1 hwu
  have hsame : y' = y := Option.some.inj (hy'.symm.trans hy)
  subst hsame
  have hplace : p' = p := Option.some.inj (hp'.symm.trans hq)
  subst hplace
  exact (agree_number_iff hv).2 ⟨x, z, p', hx, hz, hp, hq'⟩

/-- Equality with a number can be turned around. -/
theorem agree_symm_number {v w : Value} {x : Number} (hv : v.number? = some x)
    (h : v.agree w = true) : w.agree v = true := by
  obtain ⟨x, y, p, hx, hy, hp, hq⟩ := (agree_number_iff hv).1 h
  exact (agree_number_iff hy).2 ⟨y, x, p, hy, hx, hq, hp⟩

/-- Only nothing is equal to nothing. -/
theorem agree_null_iff {w : Value} : null.agree w = true ↔ w = null := by
  cases w <;> simp [agree, number?]

/-- What is equal to nothing is nothing itself. -/
theorem agree_null_right {v : Value} : v.agree null = true ↔ v = null := by
  cases v <;> simp [agree, number?]

/-- Only the same text is equal to a text. -/
theorem agree_text_iff {s : String} {w : Value} : (text s).agree w = true ↔ w = text s := by
  cases w with
  | text t =>
      rw [agree, beq_iff_eq, text.injEq]
      exact eq_comm
  | _ => simp [agree, number?]

/-- What is equal to a date is a date of the same instant. -/
theorem agree_date_iff {d : Calendar.DateTime} {w : Value} :
    (date d).agree w = true ↔ ∃ e, w = date e ∧ d.agree e = true := by
  cases w <;> simp [agree, number?]

/-- What is equal to a list is a list with equal items. -/
theorem agree_list_iff {xs : List Value} {w : Value} :
    (list xs).agree w = true ↔ ∃ ys, w = list ys ∧ agreeItems xs ys = true := by
  cases w <;> simp [agree, number?]

/-- What is equal to a tuple is a tuple with equal items. -/
theorem agree_tuple_iff {xs : List Value} {w : Value} :
    (tuple xs).agree w = true ↔ ∃ ys, w = tuple ys ∧ agreeItems xs ys = true := by
  cases w <;> simp [agree, number?]

/-- What is equal to a mapping is a mapping with as many entries, and equal ones. -/
theorem agree_mapping_iff {xs : Entries} {w : Value} :
    (mapping xs).agree w = true ↔
      ∃ ys, w = mapping ys ∧ xs.length = ys.length ∧ agreeEntries xs ys = true := by
  cases w <;> simp [agree, number?]

/-- What is equal to an object is an object with as many attributes, and equal ones. -/
theorem agree_object_iff {xs : Entries} {label : Option Nat} {w : Value} :
    (object xs label).agree w = true ↔
      ∃ ys other, w = object ys other ∧ xs.length = ys.length ∧
        agreeEntries xs ys = true := by
  cases w <;> simp [agree, number?]

/-- Entries are equal to others when each name gives equal values. -/
theorem agreeEntries_iff {xs ys : Entries} :
    agreeEntries xs ys = true ↔
      ∀ entry ∈ xs, ∃ w, ys.lookup entry.1 = some w ∧ entry.2.agree w = true := by
  induction xs with
  | nil => simp [agreeEntries]
  | cons entry xs ih =>
      obtain ⟨name, v⟩ := entry
      rw [agreeEntries, Bool.and_eq_true, ih, List.forall_mem_cons]
      cases ys.lookup name <;> simp

/-- What is found under a name is one of the entries. -/
theorem mem_of_lookup {entries : Entries} {name : String} {v : Value}
    (h : entries.lookup name = some v) : (name, v) ∈ entries := by
  obtain ⟨before, after, rfl, -⟩ := List.lookup_eq_some_iff.1 h
  simp

/-! ## Equality goes on -/

mutual
/-- Values that are equal to the same value are equal: from the first one to the last. -/
theorem agree_trans : ∀ {v w u : Value}, v.agree w = true → w.agree u = true →
    v.agree u = true
  | .null, w, u, hvw, hwu => by
      rw [agree_null_iff] at hvw
      exact hvw ▸ hwu
  | .text s, w, u, hvw, hwu => by
      rw [agree_text_iff] at hvw
      exact hvw ▸ hwu
  | .date d, w, u, hvw, hwu => by
      obtain ⟨e, rfl, hinstant⟩ := agree_date_iff.1 hvw
      obtain ⟨f, rfl, hother⟩ := agree_date_iff.1 hwu
      exact agree_date_iff.2 ⟨f, rfl, Calendar.DateTime.agree_trans hinstant hother⟩
  | .bool b, w, u, hvw, hwu => agree_trans_number rfl hvw hwu
  | .int n, w, u, hvw, hwu => agree_trans_number rfl hvw hwu
  | .double x, w, u, hvw, hwu => agree_trans_number rfl hvw hwu
  | .list xs, w, u, hvw, hwu => by
      obtain ⟨ys, rfl, hitems⟩ := agree_list_iff.1 hvw
      obtain ⟨zs, rfl, hothers⟩ := agree_list_iff.1 hwu
      exact agree_list_iff.2 ⟨zs, rfl, agreeItems_trans hitems hothers⟩
  | .tuple xs, w, u, hvw, hwu => by
      obtain ⟨ys, rfl, hitems⟩ := agree_tuple_iff.1 hvw
      obtain ⟨zs, rfl, hothers⟩ := agree_tuple_iff.1 hwu
      exact agree_tuple_iff.2 ⟨zs, rfl, agreeItems_trans hitems hothers⟩
  | .mapping xs, w, u, hvw, hwu => by
      obtain ⟨ys, rfl, hlength, hentries⟩ := agree_mapping_iff.1 hvw
      obtain ⟨zs, rfl, hlength', hothers⟩ := agree_mapping_iff.1 hwu
      exact agree_mapping_iff.2
        ⟨zs, rfl, hlength.trans hlength', agreeEntries_trans xs hentries hothers⟩
  | .object xs label, w, u, hvw, hwu => by
      obtain ⟨ys, other, rfl, hlength, hentries⟩ := agree_object_iff.1 hvw
      obtain ⟨zs, third, rfl, hlength', hothers⟩ := agree_object_iff.1 hwu
      exact agree_object_iff.2
        ⟨zs, third, rfl, hlength.trans hlength', agreeEntries_trans xs hentries hothers⟩

/-- Equality of sequences goes on from sequence to sequence. -/
theorem agreeItems_trans : ∀ {xs ys zs : List Value}, agreeItems xs ys = true →
    agreeItems ys zs = true → agreeItems xs zs = true
  | [], [], zs, _, h => h
  | x :: xs, y :: ys, z :: zs, hxy, hyz => by
      rw [agreeItems, Bool.and_eq_true] at hxy hyz ⊢
      exact ⟨agree_trans hxy.1 hyz.1, agreeItems_trans hxy.2 hyz.2⟩

/-- Equality of entries goes on from entries to entries. -/
theorem agreeEntries_trans : ∀ (xs : Entries) {ys zs : Entries}, agreeEntries xs ys = true →
    agreeEntries ys zs = true → agreeEntries xs zs = true
  | [], ys, zs, _, _ => rfl
  | (name, v) :: xs, ys, zs, hxy, hyz => by
      rw [agreeEntries, Bool.and_eq_true] at hxy ⊢
      obtain ⟨hfirst, hrest⟩ := hxy
      cases hw : ys.lookup name with
      | none => simp [hw] at hfirst
      | some w =>
          rw [hw] at hfirst
          obtain ⟨u, hu, hwu⟩ := agreeEntries_iff.1 hyz _ (mem_of_lookup hw)
          rw [hu]
          exact ⟨agree_trans hfirst hwu, agreeEntries_trans xs hrest hyz⟩
end

/-! ## Equality turned around -/

mutual
/-- The value has each name at most once in each of its mappings and objects, itself
among them. -/
def IsRegular : Value → Prop
  | list items | tuple items => AreRegular items
  | mapping entries | object entries _ =>
      (entries.map Prod.fst).Nodup ∧ HaveRegular entries
  | _ => True

/-- All of the values have each name at most once in their mappings and objects. -/
def AreRegular : List Value → Prop
  | [] => True
  | v :: vs => IsRegular v ∧ AreRegular vs

/-- The values of all entries have each name at most once in their mappings and
objects. -/
def HaveRegular : Entries → Prop
  | [] => True
  | (_, v) :: entries => IsRegular v ∧ HaveRegular entries
end

/-- Where as many names are found as there are, and none of them twice, all names are
found, and none of them is there twice. -/
theorem names_perm {xs ys : Entries} (hnodup : (xs.map Prod.fst).Nodup)
    (hlength : xs.length = ys.length) (hentries : agreeEntries xs ys = true) :
    (xs.map Prod.fst).Perm (ys.map Prod.fst) := by
  have hsub : xs.map Prod.fst ⊆ ys.map Prod.fst := by
    intro name hname
    obtain ⟨entry, hentry, rfl⟩ := List.mem_map.1 hname
    obtain ⟨w, hw, -⟩ := agreeEntries_iff.1 hentries entry hentry
    exact List.mem_map.2 ⟨(entry.1, w), mem_of_lookup hw, rfl⟩
  have hle : (ys.map Prod.fst).length ≤ (xs.map Prod.fst).length := by
    rw [List.length_map, List.length_map, hlength]
  exact (hnodup.subperm hsub).perm_of_length_le hle

/-- In entries with each name once, an entry is what is found under its name. -/
theorem lookup_of_mem {entries : Entries} (hnodup : (entries.map Prod.fst).Nodup)
    {name : String} {v : Value} (h : (name, v) ∈ entries) : entries.lookup name = some v := by
  obtain ⟨before, after, rfl⟩ := List.append_of_mem h
  rw [List.map_append, List.map_cons, List.nodup_append] at hnodup
  refine List.lookup_eq_some_iff.2 ⟨before, after, rfl, ?_⟩
  intro entry hentry
  have hne := hnodup.2.2 entry.1 (List.mem_map_of_mem hentry) name (by simp)
  simpa using Ne.symm hne

/-- Entries that are equal to others, with each name once, have equal values turned around
when each of their values has. -/
theorem agreeEntries_turned {xs ys : Entries} (hnodup : (xs.map Prod.fst).Nodup)
    (hlength : xs.length = ys.length) (hentries : agreeEntries xs ys = true)
    (hturn : ∀ entry ∈ xs, ∀ w, entry.2.agree w = true → w.agree entry.2 = true) :
    agreeEntries ys xs = true := by
  have hperm := names_perm hnodup hlength hentries
  rw [agreeEntries_iff]
  rintro ⟨name, w⟩ hentry
  have hname : name ∈ xs.map Prod.fst := hperm.mem_iff.2 (List.mem_map_of_mem hentry)
  obtain ⟨⟨name, v⟩, hv, rfl⟩ := List.mem_map.1 hname
  obtain ⟨w', hw', hagree⟩ := agreeEntries_iff.1 hentries _ hv
  have hsame : w' = w := by
    have hw := lookup_of_mem (hperm.nodup_iff.1 hnodup) hentry
    exact Option.some.inj (hw'.symm.trans hw)
  subst hsame
  exact ⟨v, lookup_of_mem hnodup hv, hturn _ hv w' hagree⟩

mutual
/-- Equality can be turned around when the first value has each name once. -/
theorem agree_symm : ∀ {v w : Value}, v.IsRegular → v.agree w = true → w.agree v = true
  | .null, w, _, h => by
      rw [agree_null_iff] at h
      exact h ▸ agree_null_iff.2 rfl
  | .text s, w, _, h => by
      rw [agree_text_iff] at h
      exact h ▸ agree_text_iff.2 rfl
  | .date d, w, _, h => by
      obtain ⟨e, rfl, hinstant⟩ := agree_date_iff.1 h
      exact agree_date_iff.2 ⟨d, rfl, (e.agree_comm d).trans hinstant⟩
  | .bool b, w, _, h => agree_symm_number rfl h
  | .int n, w, _, h => agree_symm_number rfl h
  | .double x, w, _, h => agree_symm_number rfl h
  | .list xs, w, hreg, h => by
      obtain ⟨ys, rfl, hitems⟩ := agree_list_iff.1 h
      rw [IsRegular] at hreg
      exact agree_list_iff.2 ⟨xs, rfl, agreeItems_symm hreg hitems⟩
  | .tuple xs, w, hreg, h => by
      obtain ⟨ys, rfl, hitems⟩ := agree_tuple_iff.1 h
      rw [IsRegular] at hreg
      exact agree_tuple_iff.2 ⟨xs, rfl, agreeItems_symm hreg hitems⟩
  | .mapping xs, w, hreg, h => by
      obtain ⟨ys, rfl, hlength, hentries⟩ := agree_mapping_iff.1 h
      rw [IsRegular] at hreg
      exact agree_mapping_iff.2 ⟨xs, rfl, hlength.symm,
        agreeEntries_turned hreg.1 hlength hentries (agreeEntry_symm hreg.2)⟩
  | .object xs label, w, hreg, h => by
      obtain ⟨ys, other, rfl, hlength, hentries⟩ := agree_object_iff.1 h
      rw [IsRegular] at hreg
      exact agree_object_iff.2 ⟨xs, label, rfl, hlength.symm,
        agreeEntries_turned hreg.1 hlength hentries (agreeEntry_symm hreg.2)⟩

/-- Equality of sequences can be turned around. -/
theorem agreeItems_symm : ∀ {xs ys : List Value}, AreRegular xs → agreeItems xs ys = true →
    agreeItems ys xs = true
  | [], [], _, _ => rfl
  | x :: xs, y :: ys, hreg, h => by
      rw [agreeItems, Bool.and_eq_true] at h ⊢
      rw [AreRegular] at hreg
      exact ⟨agree_symm hreg.1 h.1, agreeItems_symm hreg.2 h.2⟩

/-- Equality with the value of an entry can be turned around. -/
theorem agreeEntry_symm : ∀ {xs : Entries}, HaveRegular xs → ∀ entry ∈ xs, ∀ w,
    entry.2.agree w = true → w.agree entry.2 = true
  | [], _, entry, hentry, w, h => absurd hentry (List.not_mem_nil)
  | (name, v) :: xs, hreg, entry, hentry, w, h => by
      rw [HaveRegular] at hreg
      rcases List.mem_cons.1 hentry with rfl | hrest
      · exact agree_symm hreg.1 h
      · exact agreeEntry_symm hreg.2 entry hrest w h
end

/-- Equal values are equal to the same values. -/
theorem agree_congr_left {v w : Value} (hreg : v.IsRegular) (h : v.agree w = true)
    (u : Value) : v.agree u = w.agree u := by
  rw [Bool.eq_iff_iff]
  exact ⟨agree_trans (agree_symm hreg h), agree_trans h⟩

/-- The same values are equal to equal values. -/
theorem agree_congr_right {v w : Value} (hreg : v.IsRegular) (h : v.agree w = true)
    (u : Value) : u.agree v = u.agree w := by
  rw [Bool.eq_iff_iff]
  exact ⟨fun huv => agree_trans huv h, fun huw => agree_trans huw (agree_symm hreg h)⟩

end Value
end PagedQuery
