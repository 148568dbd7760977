import PagedQuery.Proofs.Counting
import PagedQuery.Proofs.Negations

/-!
# Rows that have nothing to compare

A row may have nothing in all the properties that a predicate compares.  In a list no such row
is found, as long as the predicate has no negations and no empty conjunctions.  A database
tells apart what is compared: equality with nothing is a test that the row passes, and every
other comparison has no answer.  So the row is found in a table exactly when the predicate
asks for nothing.

Main results:

- Theorem `holds_of_empty`: evaluation on a row with nothing to compare.
- Theorem `mapOperands_foldConj` and Theorem `mapOperands_foldDisj`: folding does not look at
  operands.
- Theorem `truth_of_empty`: the answer of a condition on a record with nothing to compare.
- Theorem `found_empty_iff`: in which places a row with nothing to compare is found.
-/

namespace PagedQuery

open Relational

/-! ## Predicates without negations -/

namespace Predicate

/-- The predicate is built by disjunction, and by conjunction of at least one member, from
comparisons of properties of some kind. -/
inductive IsPositive (named : String → Prop) : Predicate → Prop
  | compare {name op value} (h : named name) : IsPositive named (.compare name op value)
  | all {ps} (hsome : ps ≠ []) (h : ∀ p ∈ ps, IsPositive named p) : IsPositive named (.all ps)
  | any {ps} (h : ∀ p ∈ ps, IsPositive named p) : IsPositive named (.any ps)

mutual
/-- The predicate is met by nothing: it asks for equality with nothing in all members of
conjunctions and in some member of disjunctions. -/
def asksForNothing : Predicate → Bool
  | .compare _ op value => op == .eq && value.isNull
  | .all ps => allAskForNothing ps
  | .any ps => anyAsksForNothing ps
  | .not _ | .foreign _ => false

/-- All of several predicates ask for nothing. -/
def allAskForNothing : List Predicate → Bool
  | [] => true
  | p :: ps => asksForNothing p && allAskForNothing ps

/-- Some of several predicates asks for nothing. -/
def anyAsksForNothing : List Predicate → Bool
  | [] => false
  | p :: ps => asksForNothing p || anyAsksForNothing ps
end

/-- No row meets one of several predicates when it meets none of them. -/
theorem holdsAny_of_none {ps : List Predicate} {row : Value}
    (h : ∀ p ∈ ps, p.holds row = .ok false) : holdsAny ps row = .ok false := by
  induction ps with
  | nil => rfl
  | cons p ps ih =>
      rw [List.forall_mem_cons] at h
      rw [holdsAny, h.1, ih h.2]

/-- A row with nothing to compare does not meet the predicate. -/
theorem holds_of_empty {p : Predicate} {row : Value}
    (h : p.IsPositive fun name => row.property name = .null) : p.holds row = .ok false := by
  induction h with
  | compare h => exact compare_null h _ _
  | @all ps hsome _ ih =>
      obtain ⟨p, ps, rfl⟩ := List.exists_cons_of_ne_nil hsome
      rw [holds, holdsAll, ih p List.mem_cons_self]
  | any _ ih =>
      rw [holds]
      exact holdsAny_of_none ih

end Predicate

/-! ## Lists of rows -/

/-- A row with nothing to compare is not found in a list. -/
theorem Collection.not_mem_find {entity : String} {p : Predicate} {w : World Store} {row : Value}
    (h : p.IsPositive fun name => row.property name = .null) {found : List Value}
    (hfound : ((Repository.find ⟨backend, entity⟩ [p]).run w).1 = .ok found) :
    row ∉ found := by
  rw [find_bind] at hfound
  obtain ⟨rows, -, hmatching⟩ := bind_eq_ok hfound
  rw [matching_filter (evaluatesAll_of_matching hmatching)] at hmatching
  cases hmatching
  intro hmem
  have hmet := (List.mem_filter.1 hmem).2
  rw [List.all_cons, List.all_nil, Bool.and_true,
    Predicate.isMet_of_holds (Predicate.holds_of_empty h)] at hmet
  cases hmet

namespace Relational

namespace Condition

/-! ## Operands of conditions -/

section

variable {β γ : Type} (f : β → γ)

mutual
/-- The condition with other operands. -/
def mapOperands : Condition β → Condition γ
  | constant b => constant b
  | isNull column => isNull column
  | compare column relation operand => compare column relation (f operand)
  | contains column needle => contains column needle
  | conj conditions => conj (mapAllOperands conditions)
  | disj conditions => disj (mapAllOperands conditions)
  | negation condition => negation (mapOperands condition)

/-- Several conditions with other operands. -/
def mapAllOperands : List (Condition β) → List (Condition γ)
  | [] => []
  | condition :: conditions => mapOperands condition :: mapAllOperands conditions
end

/-- Several conditions get other operands one by one. -/
theorem mapAllOperands_eq (cs : List (Condition β)) :
    mapAllOperands f cs = cs.map (mapOperands f) := by
  induction cs with
  | nil => rfl
  | cons c cs ih => rw [mapAllOperands, ih, List.map_cons]

/-- A constant stays one whatever the operands are. -/
theorem isConstant_mapOperands (b : Bool) (c : Condition β) :
    isConstant b (mapOperands f c) = isConstant b c := by
  cases c <;> rfl

/-- The conjuncts get the other operands. -/
theorem conjuncts_mapOperands (c : Condition β) :
    (mapOperands f c).conjuncts = c.conjuncts.map (mapOperands f) := by
  cases c with
  | conj cs => exact mapAllOperands_eq f cs
  | _ => rfl

/-- The disjuncts get the other operands. -/
theorem disjuncts_mapOperands (c : Condition β) :
    (mapOperands f c).disjuncts = c.disjuncts.map (mapOperands f) := by
  cases c with
  | disj cs => exact mapAllOperands_eq f cs
  | _ => rfl

/-- What is left of several conditions without constants gets the other operands. -/
theorem kept_mapOperands (b : Bool) {members : Condition β → List (Condition β)}
    {members' : Condition γ → List (Condition γ)}
    (hmembers : ∀ c, members' (mapOperands f c) = (members c).map (mapOperands f))
    (cs : List (Condition β)) :
    ((cs.map (mapOperands f)).filter fun c => !isConstant b c).flatMap members' =
      ((cs.filter fun c => !isConstant b c).flatMap members).map (mapOperands f) := by
  induction cs with
  | nil => rfl
  | cons c cs ih =>
      rw [List.map_cons, List.filter_cons, List.filter_cons, isConstant_mapOperands]
      split
      · rw [List.flatMap_cons, List.flatMap_cons, List.map_append, hmembers, ih]
      · exact ih

/-- Folding a conjunction does not look at operands. -/
theorem mapOperands_foldConj (cs : List (Condition β)) :
    mapOperands f (foldConj cs) = foldConj (cs.map (mapOperands f)) := by
  have hconstants : (cs.map (mapOperands f)).any (isConstant false) =
      cs.any (isConstant false) := by
    rw [List.any_map]
    exact congrArg cs.any (funext (isConstant_mapOperands f false))
  rw [foldConj, foldConj, hconstants, kept_mapOperands f true (conjuncts_mapOperands f)]
  split
  · rfl
  · rcases (cs.filter fun c => !isConstant true c).flatMap conjuncts with
      _ | ⟨c, _ | ⟨next, rest⟩⟩
    · rfl
    · rfl
    · exact congrArg conj (mapAllOperands_eq f _)

/-- Folding a disjunction does not look at operands. -/
theorem mapOperands_foldDisj (cs : List (Condition β)) :
    mapOperands f (foldDisj cs) = foldDisj (cs.map (mapOperands f)) := by
  have hconstants : (cs.map (mapOperands f)).any (isConstant true) =
      cs.any (isConstant true) := by
    rw [List.any_map]
    exact congrArg cs.any (funext (isConstant_mapOperands f true))
  rw [foldDisj, foldDisj, hconstants, kept_mapOperands f false (disjuncts_mapOperands f)]
  split
  · rfl
  · rcases (cs.filter fun c => !isConstant false c).flatMap disjuncts with
      _ | ⟨c, _ | ⟨next, rest⟩⟩
    · rfl
    · rfl
    · exact congrArg disj (mapAllOperands_eq f _)

end

/-- The cell that is sent for a value, nothing if it cannot be sent. -/
def cellOf (value : Value) : Cell := (bindValue value).toOption.getD .null

mutual
/-- A condition is sent with the cells of its operands. -/
theorem mapOperands_of_sends : (c : Condition Value) → {d : Condition Cell} → Sends c d →
    mapOperands cellOf c = d
  | constant b, _, h => by cases sentAs_of_sends h; rfl
  | isNull column, _, h => by cases sentAs_of_sends h; rfl
  | contains column needle, _, h => by cases sentAs_of_sends h; rfl
  | compare column relation value, _, h => by
      cases sentAs_of_sends h with
      | compare hcell => rw [mapOperands, cellOf, hcell]; rfl
  | conj cs, _, h => by
      cases sentAs_of_sends h with
      | conj hmembers => rw [mapOperands, mapAllOperands_of_sends cs hmembers]
  | disj cs, _, h => by
      cases sentAs_of_sends h with
      | disj hmembers => rw [mapOperands, mapAllOperands_of_sends cs hmembers]
  | negation c, _, h => by
      cases sentAs_of_sends h with
      | negation hinner => rw [mapOperands, mapOperands_of_sends c hinner]

/-- Several conditions are sent with the cells of their operands. -/
theorem mapAllOperands_of_sends : (cs : List (Condition Value)) → {ds : List (Condition Cell)} →
    List.Forall₂ Sends cs ds → mapAllOperands cellOf cs = ds
  | [], _, .nil => rfl
  | c :: cs, _, .cons hfirst hrest => by
      rw [mapAllOperands, mapOperands_of_sends c hfirst, mapAllOperands_of_sends cs hrest]
end

/-! ## Answers on records with nothing to compare -/

/-- What is not nothing is there. -/
theorem isNull_eq_false {value : Value} (h : value ≠ .null) : value.isNull = false := by
  cases value with
  | null => exact absurd rfl h
  | _ => rfl

/-- A comparison becomes a test for nothing, the opposite of one, or a condition that has no
answer on nothing. -/
theorem truth_ofComparison {f : Value → Cell} {column : Column} {op : Operator} {value : Value}
    {c : Condition Value} (hc : ofComparison column op value = .ok c) {r : Record}
    (hnull : r.cell column.name = .null) :
    (c.mapOperands f).truth r = .yes ↔ (op == .eq && value.isNull) = true := by
  have hcompare : ∀ relation, (compare column relation (f value)).truth r = .unknown := by
    intro relation
    rw [truth, hnull, compareCells_null]
    rfl
  have hcontains : ∀ needle, (contains column.name needle).truth r = .unknown := by
    intro needle
    rw [truth, hnull]
    rfl
  unfold ofComparison at hc
  split at hc
  · cases hc
    simp [mapOperands, truth, hnull, Truth.ofBool, Value.isNull]
  · cases hc
    simp [mapOperands, truth, hnull, Truth.ofBool, Truth.negate]
  · rename_i hvalue
    cases hc
    rw [mapOperands, hcompare, isNull_eq_false hvalue]
    simp
  · cases hc
    rw [mapOperands, hcompare]
    simp
  · cases hc
    rw [mapOperands, hcontains]
    simp
  · cases hc
  · cases hc
  · cases hc
  · rename_i hop _ _ _ _ _ _ _
    split at hc
    · cases hc
      rw [mapOperands, hcompare]
      simp [beq_eq_false_iff_ne.2 hop]
    · cases hc

end Condition

/-- The conditions of several predicates are made one by one. -/
theorem forall₂_of_ofPredicates {s : Schema} {ps : List Predicate} {cs : List (Condition Value)}
    (h : Condition.ofPredicates s ps = .ok cs) :
    List.Forall₂ (fun p c => Condition.ofPredicate s p = .ok c) ps cs := by
  induction ps generalizing cs with
  | nil =>
      rw [Condition.ofPredicates, Except.ok.injEq] at h
      exact h ▸ .nil
  | cons p ps ih =>
      rw [Condition.ofPredicates] at h
      split at h
      · cases h
      · rename_i c hc
        split at h
        · cases h
        · rename_i rest hrest
          cases h
          exact .cons hc (ih hrest)

/-- The condition is met by a record exactly when the predicate asks for nothing. -/
def MetByNothing (f : Value → Cell) (r : Record) (p : Predicate) (c : Condition Value) : Prop :=
  (c.mapOperands f).truth r = .yes ↔ p.asksForNothing = true

/-- What is met by nothing member by member is met by nothing as a conjunction and as a
disjunction. -/
theorem metByNothing_members {f : Value → Cell} {r : Record} {ps : List Predicate}
    {cs : List (Condition Value)} (h : List.Forall₂ (MetByNothing f r) ps cs) :
    (Condition.truthAll (cs.map (Condition.mapOperands f)) r = .yes ↔
        Predicate.allAskForNothing ps = true) ∧
      (Condition.truthAny (cs.map (Condition.mapOperands f)) r = .yes ↔
        Predicate.anyAsksForNothing ps = true) := by
  have hand : ∀ a b : Truth, a.and b = .yes ↔ a = .yes ∧ b = .yes := by
    intro a b
    cases a <;> cases b <;> decide
  have hor : ∀ a b : Truth, a.or b = .yes ↔ a = .yes ∨ b = .yes := by
    intro a b
    cases a <;> cases b <;> decide
  induction h with
  | nil => simp [Condition.truthAll, Condition.truthAny, Predicate.allAskForNothing,
      Predicate.anyAsksForNothing]
  | cons hfirst _ ih =>
      rw [MetByNothing] at hfirst
      rw [List.map_cons, Condition.truthAll, Condition.truthAny, hand, hor, hfirst, ih.1, ih.2,
        Predicate.allAskForNothing, Predicate.anyAsksForNothing, Bool.and_eq_true,
        Bool.or_eq_true]
      exact ⟨Iff.rfl, Iff.rfl⟩

/-- On a record with nothing to compare, the answer of a condition is yes exactly when the
predicate asks for nothing, whatever the operands are. -/
theorem truth_of_empty {s : Schema} {r : Record} (f : Value → Cell) {p : Predicate}
    (h : p.IsPositive fun name => r.cell name = .null) {c : Condition Value}
    (hc : Condition.ofPredicate s p = .ok c) : MetByNothing f r p c := by
  -- Folding leaves members out, so the answers are joined before anything is sent.
  have hmembers : ∀ {ps : List Predicate} {cs : List (Condition Value)},
      (∀ p ∈ ps, ∀ {c}, Condition.ofPredicate s p = .ok c → MetByNothing f r p c) →
      Condition.ofPredicates s ps = .ok cs → List.Forall₂ (MetByNothing f r) ps cs := by
    intro ps cs heach hcs
    have hboth := (List.forall₂_and_left ps cs).2 ⟨heach, forall₂_of_ofPredicates hcs⟩
    exact hboth.imp fun p c h => h.1 h.2
  induction h generalizing c with
  | @compare name op value h =>
      rw [Condition.ofPredicate] at hc
      split at hc
      · rename_i column hcolumn
        have hname : column.name = name := by
          rw [Schema.column] at hcolumn
          split at hcolumn
          · rename_i found hfound
            cases hcolumn
            exact (Schema.column?_mem hfound).2
          · cases hcolumn
        exact Condition.truth_ofComparison hc (hname ▸ h)
      · cases hc
  | @all ps _ _ ih =>
      rw [Condition.ofPredicate] at hc
      split at hc
      · rename_i cs hcs
        cases hc
        rw [MetByNothing, Condition.mapOperands_foldConj, Condition.truth_foldConj,
          Predicate.asksForNothing]
        exact (metByNothing_members (hmembers ih hcs)).1
      · cases hc
  | @any ps _ ih =>
      rw [Condition.ofPredicate] at hc
      split at hc
      · rename_i cs hcs
        cases hc
        rw [MetByNothing, Condition.mapOperands_foldDisj, Condition.truth_foldDisj,
          Predicate.asksForNothing]
        exact (metByNothing_members (hmembers ih hcs)).2
      · cases hc

/-! ## Tables -/

variable {entity : String}

/-- Rows that are found in a table are those of the records that its condition selects. -/
theorem find_records {ps : List Predicate} {w : World Database} {rows : List Value}
    (h : ((Repository.find ⟨backend, entity⟩ ps).run w).1 = .ok rows) :
    ∃ t cs d found, w.store.table? entity = some t ∧
      Condition.ofPredicates t.schema ps = .ok cs ∧ Condition.Sends (.foldConj cs) d ∧
      found.Perm (t.records.filter d.selects) ∧
      rows = (Database.presented t.schema found w.store).1 := by
  rw [find_shown] at h
  obtain ⟨⟨t, selected⟩, hselection, rfl⟩ := map_eq_ok h
  obtain ⟨s, htable, hmade, -, -, hrun⟩ := selection_eq_ok.1 hselection
  obtain ⟨cs, offset, limit, hcs, hoffset, hlimit, rfl⟩ := ofQuery_ok hmade
  cases hoffset
  cases hlimit
  obtain ⟨sent, -, hsent, hanswer⟩ := Selection.run_eq_ok hrun
  obtain ⟨d, hsend, -, -, rfl⟩ := Selection.send_eq_ok hsent
  obtain ⟨met, hmet, rfl⟩ := w.store.engine.answer_selects hanswer
  have hfound : w.store.table? entity = some t := by
    rw [Database.table] at htable
    split at htable
    · rename_i hfound
      cases htable
      exact hfound
    · cases htable
  refine ⟨t, cs, d, _, hfound, hcs, hsend, ?_, rfl⟩
  exact (orderRecords_perm _ _).trans (hmet.filter _)

/-- A record with nothing to compare is selected exactly when the predicate asks for
nothing. -/
theorem selects_empty {s : Schema} {r : Record} {p : Predicate}
    (h : p.IsPositive fun name => r.cell name = .null) {cs : List (Condition Value)}
    (hcs : Condition.ofPredicates s [p] = .ok cs) {d : Condition Cell}
    (hd : Condition.Sends (.foldConj cs) d) :
    d.selects r = true ↔ p.asksForNothing = true := by
  obtain ⟨c, rest, hc, hrest, rfl⟩ :=
    List.forall₂_cons_left_iff.1 (forall₂_of_ofPredicates hcs)
  rw [List.forall₂_nil_left_iff] at hrest
  have htruth : d.truth r = (c.mapOperands Condition.cellOf).truth r := by
    rw [← Condition.mapOperands_of_sends _ hd, Condition.mapOperands_foldConj,
      Condition.truth_foldConj, hrest, List.map_cons, List.map_nil, Condition.truthAll,
      Condition.truthAll, isJoin_and.join_neutral]
  rw [Condition.selects, beq_iff_eq, htruth]
  exact truth_of_empty Condition.cellOf h hc

/-- A row that has nothing in all properties that a predicate compares is never found in a
list.  A search over a table finds it exactly when the predicate asks for nothing, unless the
search fails; found records are shown as their objects, which have the values of the records
in a typed table. -/
theorem found_empty_iff (p : Predicate) :
    (∀ (entity : String) (m : World Collection.Store) (row : Value) (found : List Value),
      p.IsPositive (fun name => row.property name = .null) →
      ((Repository.find ⟨Collection.backend, entity⟩ [p]).run m).1 = .ok found →
      row ∉ found) ∧
    ∀ (entity : String) (w : World Database) (rows : List Value),
      ((Repository.find ⟨backend, entity⟩ [p]).run w).1 = .ok rows →
      ∃ t found, w.store.table? entity = some t ∧
        rows = (Database.presented t.schema found w.store).1 ∧
        (∀ id, t.IsTyped id → Mirrors t w.store → List.Forall₂ Shows rows found) ∧
        ∀ r ∈ t.records, p.IsPositive (fun name => r.cell name = .null) →
          (r ∈ found ↔ p.asksForNothing = true) := by
  constructor
  · intro entity m row found hempty hfound
    exact Collection.not_mem_find hempty hfound
  · intro entity w rows hrows
    obtain ⟨t, cs, d, found, htable, hcs, hd, hperm, rfl⟩ := find_records hrows
    refine ⟨t, found, htable, rfl, ?_, ?_⟩
    · intro id htyped hmirrors
      refine (presented_shows htyped ?_ hmirrors entity).1
      intro r hr
      exact List.mem_of_mem_filter (hperm.mem_iff.1 hr)
    · intro r hr hempty
      rw [hperm.mem_iff, List.mem_filter, and_iff_right hr]
      exact selects_empty hempty hcs hd

/-! ## A user without an age -/

/-- The age is nothing. -/
def noAge : Predicate := .compare "age" .eq .null

/-- A user of whom no age is known is found in a table, but not in a list, when nothing is
asked for as the age. -/
theorem find_noAge_differs :
    ((Repository.find ⟨Collection.backend, "users"⟩ [noAge]).run
        ⟨{ collections := [("users", [ageless.toMapping])] }, []⟩).1 = .ok [] ∧
      ∃ row, ((Repository.find ⟨backend, "User"⟩ [noAge]).run
        ⟨{ tables := [agelessTable] }, []⟩).1 = .ok [row] ∧ Shows row ageless ∧
        ageless.cell "age" = .null := by
  refine ⟨rfl, ?_⟩
  obtain ⟨rows, hrows⟩ : ∃ rows, ((Repository.find ⟨backend, "User"⟩ [noAge]).run
      ⟨{ tables := [agelessTable] }, []⟩).1 = .ok rows := ⟨_, rfl⟩
  obtain ⟨t, cs, d, found, ht, hcs, hd, hperm, hshown⟩ := find_records hrows
  obtain rfl : agelessTable = t := Option.some.inj ht
  have hselected : d.selects ageless = true := (selects_empty (.compare rfl) hcs hd).2 rfl
  have hfilter : agelessTable.records.filter d.selects = [ageless] := by
    rw [agelessTable, List.filter_cons_of_pos hselected, List.filter_nil]
  rw [hfilter, List.perm_singleton] at hperm
  subst hperm
  have hmirrors : Mirrors agelessTable { tables := [agelessTable] } := mirrors_of_held_nil rfl
  have hshows : List.Forall₂ Shows rows [ageless] :=
    hshown ▸ (presented_shows agelessTable_isTyped (fun r hr => hr) hmirrors "User").1
  rw [List.forall₂_cons_right_iff] at hshows
  obtain ⟨row, rest, hrow, hrest, rfl⟩ := hshows
  rw [List.forall₂_nil_right_iff] at hrest
  exact ⟨row, hrest ▸ hrows, hrow, rfl⟩

/-- An age below three, or none. -/
def noAgeOrYoung : Predicate := .any [.all [.compare "age" .lt (.int 3)], noAge]

/-- The user is found in the table because the predicate asks for nothing in one member, and
is not found in the list. -/
theorem found_empty_iff_noAge :
    (∀ found, ((Repository.find ⟨Collection.backend, "users"⟩ [noAgeOrYoung]).run
        ⟨{ collections := [("users", [ageless.toMapping])] }, []⟩).1 = .ok found →
        ageless.toMapping ∉ found) ∧
      ∃ rows found, ((Repository.find ⟨backend, "User"⟩ [noAgeOrYoung]).run
        ⟨{ tables := [agelessTable] }, []⟩).1 = .ok rows ∧
        List.Forall₂ Shows rows found ∧ ageless ∈ found := by
  have hbuilt : ∀ {named : String → Prop}, named "age" → noAgeOrYoung.IsPositive named := by
    intro named hage
    refine .any (List.forall_mem_cons.2 ⟨?_, List.forall_mem_singleton.2 (.compare hage)⟩)
    exact .all (List.cons_ne_nil _ _) (List.forall_mem_singleton.2 (.compare hage))
  obtain ⟨hlist, htable⟩ := found_empty_iff noAgeOrYoung
  refine ⟨?_, ?_⟩
  · intro found hfound
    exact hlist "users" _ _ found (hbuilt rfl) hfound
  · obtain ⟨rows, hrows⟩ : ∃ rows, ((Repository.find ⟨backend, "User"⟩ [noAgeOrYoung]).run
        ⟨{ tables := [agelessTable] }, []⟩).1 = .ok rows := ⟨_, rfl⟩
    obtain ⟨t, found, ht, -, hshown, hfound⟩ := htable "User" _ rows hrows
    obtain rfl : agelessTable = t := Option.some.inj ht
    refine ⟨rows, found, hrows, hshown "id" agelessTable_isTyped (mirrors_of_held_nil rfl), ?_⟩
    exact (hfound ageless List.mem_cons_self (hbuilt rfl)).2 rfl

end Relational
end PagedQuery
