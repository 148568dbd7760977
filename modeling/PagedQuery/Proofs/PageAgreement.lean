import PagedQuery.Proofs.Counting
import PagedQuery.Proofs.PagePartition
import PagedQuery.Proofs.RecordOrder
import PagedQuery.Proofs.SharedRows
import PagedQuery.Relational.Directory

/-!
# Pages of lists and of tables

A page that is filled from a list and a page that is filled from a table with the same
rows hold the same rows in the same order, and the same number of all rows, as long as
no predicate is negated and the identifying column is among the sort keys.  Only a
statement that the engine does not take makes a difference: it is refused, while a list
is searched by any predicates.

Main results:

- Theorem `select_perm`: without negations the same rows are selected in both places.
- Theorem `findPage_agrees`: a page holds the same in both places.
- Theorem `not_takesQuery_replicate`: the embedded engine takes no thousand conditions.
-/

namespace PagedQuery
namespace Relational

open Repository

variable {e : Engine} {entity name id : String} {t : Table} {rows : List Value}

/-! ## Selected rows -/

/-- Without negations a row meets predicates exactly when their answer is yes. -/
theorem all_isMet {ps : List Predicate} {row : Value} (h : ∀ p ∈ ps, p.Settles false row) :
    ps.all (·.isMet row) = (Predicate.answerAll ps row == .yes) := by
  obtain ⟨met, hmet, hfits⟩ := Predicate.settles_all h
  rw [← Predicate.holdsAll_isMet hmet, hfits.eq_yes]

/-- Without negations the same rows are selected in both places. -/
theorem select_perm (htyped : t.IsTyped id) {s : Collection.Store}
    (hkept : KeepsRows name t rows s) {ps : List Predicate}
    (h : ∀ p ∈ ps, p.BuiltFrom t.schema.Compares false) :
    (Predicate.select ps rows).Perm ((matched t ps).map Record.toMapping) := by
  have hselected : (t.records.map Record.toMapping).filter (fun row => ps.all (·.isMet row)) =
      (matched t ps).map Record.toMapping := by
    rw [List.filter_map, matched]
    apply congrArg (List.map Record.toMapping)
    apply List.filter_congr
    intro r hr
    exact all_isMet fun p hp => settles_toMapping (h p hp) (htyped.typed r hr)
  rw [← hselected]
  exact hkept.same.filter _

/-- The selected rows of a typed table can be sorted by its columns. -/
theorem sortRows_select (htyped : t.IsTyped id) {s : Collection.Store}
    (hkept : KeepsRows name t rows s) {keys : List SortKey}
    (hkeys : ∀ key ∈ keys, ∃ c, t.schema.column? key.field = some c) (ps : List Predicate) :
    ∃ sorted, Collection.sortRows keys (Predicate.select ps rows) = .ok sorted := by
  apply Collection.sortRows_ok
  intro key hkey
  obtain ⟨c, hc⟩ := hkeys key hkey
  have hsub : Predicate.select ps rows ⊆ t.records.map Record.toMapping :=
    fun row hrow => hkept.same.subset (List.mem_of_mem_filter hrow)
  exact ((orderable_column hc htyped.typed).mono
    (Collection.fieldValues_subset hsub)).comparable

/-- A length below the limit can be sent, also when it is cut off at zero. -/
theorem checkLength_toNat {n : Int} (h : n < 2 ^ 63) :
    checkLength (some n.toNat) = .ok () := by
  have hfits : fitsInteger (n.toNat : Int) = true := by
    rw [fitsInteger, Bool.and_eq_true, decide_eq_true_iff, decide_eq_true_iff]
    omega
  rw [checkLength, hfits, if_pos rfl]

/-! ## Whole pages -/

/-- A shown object and a mapping have the same values. -/
def SameValues (shown row : Value) : Prop :=
  ∃ values label, shown = .object values label ∧ row = .mapping values

/-- Shown records have the values of their mappings. -/
theorem sameValues_of_shows {shown : List Value} {records : List Record}
    (h : List.Forall₂ Shows shown records) :
    List.Forall₂ SameValues shown (records.map Record.toMapping) := by
  rw [List.forall₂_map_right_iff]
  apply h.imp
  rintro value r ⟨label, rfl⟩
  exact ⟨r.values, label, rfl, rfl⟩

/-- A page that is filled from a list and one that is filled from a table with the same
rows hold the same rows in the same order, and the same number of all rows.  This holds
for whatever statements the engine takes; any other one is refused, and the page of the
table keeps its rows, while the page of the list is filled all the same. -/
theorem findPage_agrees (htyped : t.IsTyped id) (hpresent : t.schema.present = true)
    {ps : List Predicate} (hps : ∀ p ∈ ps, p.BuiltFrom t.schema.Compares false)
    {m : World Collection.Store} (hkept : KeepsRows name t rows m.store)
    {w : World Database} (hserved : Serves e entity t w.store)
    {p : Page Value} (hsize : 0 < p.pageSize) {keys : List SortKey}
    (hsorts : p.sorts = .ok keys)
    (hkeys : ∀ key ∈ keys, ∃ c, t.schema.column? key.field = some c)
    (hid : ∃ key ∈ keys, key.field = id) (hoffset : p.first - 1 < 2 ^ 63)
    (hlimit : p.pageSize < 2 ^ 63) :
    let list := (findPage ⟨Collection.backend, name⟩ ps).run ⟨m, p⟩
    let table := (findPage ⟨backend, entity⟩ ps).run ⟨w, p⟩
    list.1 = .ok () ∧
      (TakesPage e t ⟨backend, entity⟩ ps keys p → table.1 = .ok () ∧
        table.2.page.totalCount = list.2.page.totalCount ∧
        List.Forall₂ SameValues table.2.page.result list.2.page.result) ∧
      (¬TakesPage e t ⟨backend, entity⟩ ps keys p →
        ∃ fault, table.1 = .error (queryFailed entity fault) ∧
          table.2.page.result = p.result) := by
  intro list table
  have heval := evaluatesAll_of_builtFrom htyped hkept hps
  have hselected := select_perm htyped hkept hps
  obtain ⟨sorted, hsorted⟩ := sortRows_select htyped hkept hkeys ps
  obtain ⟨m', hlist⟩ := Collection.findPage_sorted hkept.found heval hsorted hsize hsorts
  refine ⟨congrArg Prod.fst hlist, ?_, ?_⟩
  · intro htaken
    obtain ⟨shown, records, w', htable, hperm, hshown⟩ := findPage_table hpresent hps hsize
      hsorts hkeys hserved htyped (checkLength_toNat hoffset) (checkLength_toNat hlimit) htaken
    have hsame := hselected.trans (hperm.symm.map Record.toMapping)
    have hmembers : ∀ r ∈ records, r ∈ t.records :=
      fun r hr => List.mem_of_mem_filter (hperm.mem_iff.1 hr)
    have hrows := orderRecords_eq htyped hkeys hid hmembers hsame hsorted
    have hcount : (matched t ps).length = sorted.length := by
      rw [hrows, List.length_map, (orderRecords_perm keys records).length_eq, hperm.length_eq]
    refine ⟨congrArg Prod.fst htable, ?_, ?_⟩
    · change ((findPage ⟨backend, entity⟩ ps).run ⟨w, p⟩).2.page.totalCount =
        ((findPage ⟨Collection.backend, name⟩ ps).run ⟨m, p⟩).2.page.totalCount
      rw [htable, hlist, hcount]
    · change List.Forall₂ SameValues ((findPage ⟨backend, entity⟩ ps).run ⟨w, p⟩).2.page.result
        ((findPage ⟨Collection.backend, name⟩ ps).run ⟨m, p⟩).2.page.result
      rw [htable, hlist, hrows, ← List.map_drop, ← List.map_take]
      exact sameValues_of_shows hshown
  · intro hrefused
    exact findPage_table_refused hpresent hps hsize hsorts hkeys hserved htyped
      (checkLength_toNat hoffset) (checkLength_toNat hlimit) hrefused

/-! ## Statements that are too large -/

/-- Copies of a condition without members stay apart when they are folded. -/
theorem foldConj_replicate {β : Type} {c : Condition β}
    (hconstant : ∀ b, c.isConstant b = false) (hmembers : c.conjuncts = [c]) (n : Nat) :
    Condition.foldConj (List.replicate (n + 2) c) = .conj (List.replicate (n + 2) c) := by
  have hany : (List.replicate (n + 2) c).any (Condition.isConstant false) = false := by
    rw [List.any_replicate, hconstant]
    rfl
  have hkept : ((List.replicate (n + 2) c).filter fun d => !Condition.isConstant true d).flatMap
      Condition.conjuncts = List.replicate (n + 2) c := by
    rw [List.filter_replicate_of_pos (by rw [hconstant]; rfl), List.flatMap_replicate, hmembers]
    simp
  rw [Condition.foldConj, hany, hkept]
  rfl

/-- The tree of a conjunction grows with each copy of a comparison. -/
theorem heightOfMembers_replicate {β : Type} {c : Condition β} {below : Nat}
    (h : c.height ≤ below) (n : Nat) :
    Condition.heightOfMembers below (List.replicate n c) = below + n := by
  induction n generalizing below with
  | zero => rfl
  | succ n ih =>
      rw [List.replicate_succ, Condition.heightOfMembers, ih (by omega)]
      omega

/-- Copies of a predicate become copies of its condition. -/
theorem ofPredicates_replicate {s : Schema} {p : Predicate} {c : Condition Value}
    (h : Condition.ofPredicate s p = .ok c) (n : Nat) :
    Condition.ofPredicates s (List.replicate n p) = .ok (List.replicate n c) := by
  induction n with
  | zero => rw [List.replicate_zero, List.replicate_zero, Condition.ofPredicates]
  | succ n ih =>
      rw [List.replicate_succ, List.replicate_succ, Condition.ofPredicates, h, ih]

/-- The embedded engine does not take the statement for a thousand comparisons. -/
theorem not_takesQuery_replicate {p : Predicate} {column : Column} {relation : Relation}
    {value : Value}
    (h : Condition.ofPredicate t.schema p = .ok (.compare column relation value)) {n : Nat}
    (hn : heightLimit ≤ n) {q : Query} (hpredicates : q.predicates = List.replicate n p)
    {s : Selection Value} (hmade : Selection.ofQuery t.schema q = .ok s) :
    ¬Engine.embedded.TakesQuery t q := by
  intro htaken
  obtain ⟨hread, -⟩ := htaken s hmade
  obtain ⟨cs, offset, limit, hcs, -, -, rfl⟩ := ofQuery_ok hmade
  obtain ⟨k, rfl⟩ : ∃ k, n = k + 2 := ⟨n - 2, by rw [heightLimit] at hn; omega⟩
  rw [hpredicates, ofPredicates_replicate h, Except.ok.injEq] at hcs
  subst hcs
  have hheight : (Condition.conj (List.replicate (k + 2)
      (Condition.compare column relation value))).height = 3 + (k + 1) := by
    rw [List.replicate_succ, Condition.height, heightOfMembers_replicate]
    · rw [Condition.height]
    · exact le_refl _
  change Embedded.read _ = .ok () at hread
  unfold Embedded.read at hread
  split at hread
  · rename_i hreadable
    simp only [Embedded.isReadable, foldConj_replicate (c := Condition.compare column relation
      value) (fun _ => rfl) rfl, Condition.isReadable, hheight, Bool.and_eq_true,
      decide_eq_true_eq] at hreadable
    omega
  · cases hread

/-! ## Two users -/

/-- Two users, of one of whom no age is known. -/
def twoUsers : List Record :=
  [[("id", .integer 1), ("name", .text "ann"), ("login", .text "ann"), ("age", .integer 30),
      ("status", .text "active")],
    [("id", .integer 2), ("name", .text "bob"), ("login", .null), ("age", .null),
      ("status", .text "active")]]

/-- The table of users with these two. -/
def twoUsersTable : Table := ⟨userSchema, twoUsers⟩

/-- The age is at least eighteen. -/
def adult : Predicate := .compare "age" .ge (.int 18)

/-- A page of ten users by their identifiers. -/
def byId : Page Value :=
  { Collection.byAge with pageSize := 10, orderBy := some "id", order := some [.asc] }

/-- The table of the two users is typed. -/
theorem twoUsersTable_isTyped : twoUsersTable.IsTyped "id" := by
  constructor
  · intro r hr
    apply Record.isTyped_of_columns
    revert r
    decide
  · rfl
  · exact ⟨_, rfl⟩
  · decide
  · decide

/-- The comparison is one of a column with a value of its kind. -/
theorem adult_builtFrom : adult.BuiltFrom userSchema.Compares false :=
  .compare ⟨by decide, _, rfl, 18, rfl, rfl⟩

/-- The embedded engine takes the statements of a page of the two users. -/
theorem takesPage_twoUsers :
    TakesPage .embedded twoUsersTable ⟨backend, "User"⟩ [adult] [⟨"id", .asc⟩] byId where
  counted _ := embedded_takesQuery (List.forall_mem_singleton.2 adult_builtFrom) rfl rfl
  listed := embedded_takesQuery (List.forall_mem_singleton.2 adult_builtFrom) rfl rfl

/-- The page of the table holds the same users as the page of the list, and the same
number of them. -/
theorem findPage_agrees_twoUsers :
    let list := (findPage ⟨Collection.backend, "users"⟩ [adult]).run
      ⟨⟨{ collections := [("users", twoUsers.map Record.toMapping)] }, []⟩, byId⟩
    let table := (findPage ⟨backend, "User"⟩ [adult]).run
      ⟨⟨{ tables := [twoUsersTable] }, []⟩, byId⟩
    list.1 = .ok () ∧ table.1 = .ok () ∧
      table.2.page.totalCount = list.2.page.totalCount ∧
      List.Forall₂ SameValues table.2.page.result list.2.page.result := by
  intro list table
  have hkept : KeepsRows "users" twoUsersTable (twoUsers.map Record.toMapping)
      { collections := [("users", twoUsers.map Record.toMapping)] } := ⟨rfl, .refl _⟩
  have hserved : Serves .embedded "User" twoUsersTable { tables := [twoUsersTable] } :=
    ⟨rfl, rfl, rfl, mirrors_of_held_nil rfl⟩
  have hsorts : byId.sorts = .ok [⟨"id", .asc⟩] := rfl
  obtain ⟨hlist, htaken, -⟩ := findPage_agrees twoUsersTable_isTyped rfl
    (List.forall_mem_singleton.2 adult_builtFrom)
    (m := ⟨{ collections := [("users", twoUsers.map Record.toMapping)] }, []⟩) hkept
    (w := ⟨{ tables := [twoUsersTable] }, []⟩) hserved (p := byId) (by decide) hsorts
    (List.forall_mem_singleton.2 ⟨_, rfl⟩) ⟨_, List.mem_cons_self, rfl⟩ (by decide) (by decide)
  obtain ⟨htable, hcount, hresult⟩ := htaken takesPage_twoUsers
  exact ⟨hlist, htable, hcount, hresult⟩

/-- Asking for the same more often than the embedded engine takes is the same as asking
once in a list, and is refused in a table. -/
theorem findPage_repeated {n : Nat} (hn : heightLimit ≤ n) :
    let list := (findPage ⟨Collection.backend, "users"⟩ (List.replicate n adult)).run
      ⟨⟨{ collections := [("users", twoUsers.map Record.toMapping)] }, []⟩, byId⟩
    let table := (findPage ⟨backend, "User"⟩ (List.replicate n adult)).run
      ⟨⟨{ tables := [twoUsersTable] }, []⟩, byId⟩
    list.1 = .ok () ∧ list.2.page.totalCount = 1 ∧ list.2.page.result.length = 1 ∧
      (∃ fault, table.1 = .error (queryFailed "User" fault)) ∧ table.2.page.result = [] := by
  intro list table
  have hps : ∀ p ∈ List.replicate n adult, p.BuiltFrom userSchema.Compares false := by
    intro p hp
    rw [List.eq_of_mem_replicate hp]
    exact adult_builtFrom
  have hkept : KeepsRows "users" twoUsersTable (twoUsers.map Record.toMapping)
      { collections := [("users", twoUsers.map Record.toMapping)] } := ⟨rfl, .refl _⟩
  have hserved : Serves .embedded "User" twoUsersTable { tables := [twoUsersTable] } :=
    ⟨rfl, rfl, rfl, mirrors_of_held_nil rfl⟩
  have hsorts : byId.sorts = .ok [⟨"id", .asc⟩] := rfl
  have hselected : Predicate.select (List.replicate n adult) (twoUsers.map Record.toMapping) =
      Predicate.select [adult] (twoUsers.map Record.toMapping) := by
    apply List.filter_congr
    intro row _
    have hpos : n ≠ 0 := by
      rintro rfl
      exact absurd hn (by decide)
    rw [List.all_replicate, if_neg hpos, List.all_cons, List.all_nil, Bool.and_true]
  have hann : Predicate.select [adult] (twoUsers.map Record.toMapping) =
      [twoUsers[0].toMapping] := rfl
  have hkeys : ∀ key ∈ [SortKey.mk "id" .asc], ∃ c, userSchema.column? key.field = some c :=
    List.forall_mem_singleton.2 ⟨_, rfl⟩
  obtain ⟨sorted, hsorted⟩ :=
    sortRows_select twoUsersTable_isTyped hkept hkeys (List.replicate n adult)
  have hone : sorted = [twoUsers[0].toMapping] := by
    have hperm := Collection.sortRows_perm hsorted
    rw [hselected, hann] at hperm
    exact hperm.eq_singleton
  obtain ⟨m, hlist⟩ := Collection.findPage_sorted
    (w := ⟨{ collections := [("users", twoUsers.map Record.toMapping)] }, []⟩) hkept.found
    (evaluatesAll_of_builtFrom twoUsersTable_isTyped hkept hps) hsorted (p := byId)
    (by decide) hsorts
  obtain ⟨cs, ds, hall⟩ := compileAll_of_builtFrom hps
  have hmade := statementOf_made (t := twoUsersTable) hall
    (q := pageQuery ⟨backend, "User"⟩ (List.replicate n adult) [⟨"id", .asc⟩] byId) rfl rfl
    hkeys rfl rfl
  obtain ⟨fault, hrefused, hresult⟩ := findPage_table_refused rfl hps (p := byId) (by decide)
    hsorts hkeys (w := ⟨{ tables := [twoUsersTable] }, []⟩) hserved twoUsersTable_isTyped
    (checkLength_toNat (by decide)) (checkLength_toNat (by decide))
    fun htaken => not_takesQuery_replicate rfl hn rfl hmade htaken.listed
  subst hone
  refine ⟨congrArg Prod.fst hlist, ?_, ?_, ⟨fault, hrefused⟩, hresult⟩
  · exact congrArg (fun r => r.2.page.totalCount) hlist
  · exact congrArg (fun r => r.2.page.result.length) hlist

/-- Asking a thousand and two hundred times for the same fills the page of the list, and
is refused in the table. -/
theorem findPage_repeated_differs :
    let list := (findPage ⟨Collection.backend, "users"⟩ (List.replicate 1200 adult)).run
      ⟨⟨{ collections := [("users", twoUsers.map Record.toMapping)] }, []⟩, byId⟩
    let table := (findPage ⟨backend, "User"⟩ (List.replicate 1200 adult)).run
      ⟨⟨{ tables := [twoUsersTable] }, []⟩, byId⟩
    list.1 = .ok () ∧ list.2.page.totalCount = 1 ∧ list.2.page.result.length = 1 ∧
      (∃ fault, table.1 = .error (queryFailed "User" fault)) ∧ table.2.page.result = [] :=
  findPage_repeated (by decide)

end Relational
end PagedQuery
