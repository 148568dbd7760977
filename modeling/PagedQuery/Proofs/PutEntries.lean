import Mathlib.Data.List.Nodup
import PagedQuery.Value.Basic

/-!
# Entries that are put among others

An entry is put in the place of the one with its name, or behind the others when there is none.

Main results:

- Theorem `nodup_putEntries`: names stay distinct.
- Theorem `putEntries_of_nodup`: entries with new names are put behind the others.
- Theorem `lookup_putEntries`: what is found among entries after others were put.
-/

namespace PagedQuery

/-- A name that is not there yet is put behind the others. -/
theorem putEntry_of_not_mem {name : String} {value : Value} {entries : Entries}
    (h : name ∉ entries.map Prod.fst) :
    putEntry name value entries = entries ++ [(name, value)] := by
  induction entries with
  | nil => rfl
  | cons entry entries ih =>
      rw [List.map_cons, List.mem_cons, not_or] at h
      simp [putEntry, Ne.symm h.1, ih h.2]

/-- Names that are not there yet are put behind the others. -/
theorem putEntries_of_nodup {entries more : Entries}
    (h : ((entries ++ more).map Prod.fst).Nodup) : putEntries entries more = entries ++ more := by
  induction more generalizing entries with
  | nil => exact (List.append_nil entries).symm
  | cons entry more ih =>
      have hnew : entry.1 ∉ entries.map Prod.fst := by
        rw [List.map_append, List.map_cons, List.nodup_append] at h
        exact fun hold => h.2.2 entry.1 hold entry.1 List.mem_cons_self rfl
      rw [List.append_cons] at h ⊢
      rw [← ih h, putEntries, List.foldl_cons, putEntry_of_not_mem hnew, putEntries]

/-- What is found under a name after entries were put is what was put there, or else what
was there before. -/
theorem lookup_putEntries (entries : Entries) {more : Entries}
    (h : (more.map Prod.fst).Nodup) (name : String) :
    (putEntries entries more).lookup name = (more.lookup name).or (entries.lookup name) := by
  induction more generalizing entries with
  | nil => rfl
  | cons entry more ih =>
      obtain ⟨key, value⟩ := entry
      rw [List.map_cons, List.nodup_cons] at h
      have hput : putEntries entries ((key, value) :: more) =
          putEntries (putEntry key value entries) more := rfl
      rw [hput, ih _ h.2, List.lookup_cons]
      by_cases hname : name = key
      · have hnone : more.lookup name = none := by
          rw [List.lookup_eq_none_iff]
          intro other hother
          rw [hname]
          exact bne_iff_ne.2 fun hsame => h.1 (List.mem_map.2 ⟨other, hother, hsame.symm⟩)
        rw [hnone, hname, lookup_putEntry_self, beq_self_eq_true]
        rfl
      · have hother : (name == key) = false := by simpa using hname
        rw [lookup_putEntry hname, hother]

/-- The entries are one that was put and those that were there. -/
theorem mem_putEntry {name : String} {value : Value} {entries : Entries} {entry : String × Value}
    (h : entry ∈ putEntry name value entries) : entry = (name, value) ∨ entry ∈ entries := by
  induction entries with
  | nil => exact .inl (List.mem_singleton.1 h)
  | cons first entries ih =>
      obtain ⟨key, old⟩ := first
      rw [putEntry] at h
      split at h
      · rename_i hkey
        rw [beq_iff_eq.1 hkey] at h
        exact (List.mem_cons.1 h).imp_right (List.mem_cons_of_mem _)
      · rcases List.mem_cons.1 h with rfl | hrest
        · exact .inr List.mem_cons_self
        · exact (ih hrest).imp_right (List.mem_cons_of_mem _)

/-- The entries are those that were put and those that were there. -/
theorem mem_putEntries {entries more : Entries} {entry : String × Value}
    (h : entry ∈ putEntries entries more) : entry ∈ more ∨ entry ∈ entries := by
  induction more generalizing entries with
  | nil => exact .inr h
  | cons first more ih =>
      rcases ih h with hmore | hold
      · exact .inl (List.mem_cons_of_mem _ hmore)
      · rcases mem_putEntry hold with rfl | hold
        · exact .inl List.mem_cons_self
        · exact .inr hold

/-- Names stay distinct when an entry is put. -/
theorem nodup_putEntry {name : String} {value : Value} {entries : Entries}
    (h : (entries.map Prod.fst).Nodup) : ((putEntry name value entries).map Prod.fst).Nodup := by
  induction entries with
  | nil => exact List.nodup_singleton name
  | cons first entries ih =>
      obtain ⟨key, old⟩ := first
      rw [List.map_cons, List.nodup_cons] at h
      rw [putEntry]
      split
      · exact List.nodup_cons.2 h
      · rename_i hkey
        refine List.nodup_cons.2 ⟨fun hmem => ?_, ih h.2⟩
        obtain ⟨entry, hentry, hname⟩ := List.mem_map.1 hmem
        rcases mem_putEntry hentry with rfl | hold
        · exact hkey (beq_iff_eq.2 hname.symm)
        · exact h.1 (List.mem_map.2 ⟨entry, hold, hname⟩)

/-- Names stay distinct when entries are put. -/
theorem nodup_putEntries {entries : Entries} (h : (entries.map Prod.fst).Nodup)
    (more : Entries) : ((putEntries entries more).map Prod.fst).Nodup := by
  induction more generalizing entries with
  | nil => exact h
  | cons first more ih => exact ih (nodup_putEntry h)

end PagedQuery
