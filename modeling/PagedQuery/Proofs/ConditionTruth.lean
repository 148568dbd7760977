import Mathlib.Data.List.Forall2
import PagedQuery.Relational.Extent

/-!
# Folded conditions

Conjunctions and disjunctions are folded while a statement is built: constants and
nested members of the same kind disappear.  The answer for a record stays what it would
be without folding, and values can be sent before or after it.

Main results:

- Theorem `truth_foldConj` and Theorem `truth_foldDisj`: folding changes no answer.
- Theorem `sends_foldConj` and Theorem `sends_foldDisj`: values are sent member by member.
- Theorem `overruns_of_searchless`: a condition without searches is tested to its end.
-/

namespace PagedQuery
namespace Relational

/-! ## Joining answers -/

/-- A way to join answers, one of which changes nothing while another one decides. -/
structure IsJoin (join : Truth → Truth → Truth) (neutral deciding : Truth) : Prop where
  assoc : ∀ a b c, join (join a b) c = join a (join b c)
  neutral_join : ∀ a, join neutral a = a
  join_neutral : ∀ a, join a neutral = a
  deciding_join : ∀ a, join deciding a = deciding
  join_deciding : ∀ a, join a deciding = deciding

/-- Both of two answers are such a join. -/
theorem isJoin_and : IsJoin Truth.and .yes .no := by
  constructor
  · intro a b c
    cases a <;> cases b <;> cases c <;> rfl
  · intro a
    cases a <;> rfl
  · intro a
    cases a <;> rfl
  · intro a
    rfl
  · intro a
    cases a <;> rfl

/-- One of two answers is such a join. -/
theorem isJoin_or : IsJoin Truth.or .no .yes := by
  constructor
  · intro a b c
    cases a <;> cases b <;> cases c <;> rfl
  · intro a
    cases a <;> rfl
  · intro a
    cases a <;> rfl
  · intro a
    rfl
  · intro a
    cases a <;> rfl

namespace IsJoin

variable {join : Truth → Truth → Truth} {neutral deciding : Truth} {α : Type}

/-- Joined answers of two lists are joined. -/
theorem foldr_append (h : IsJoin join neutral deciding) (ts us : List Truth) :
    (ts ++ us).foldr join neutral = join (ts.foldr join neutral) (us.foldr join neutral) := by
  induction ts with
  | nil => exact (h.neutral_join _).symm
  | cons t ts ih => rw [List.cons_append, List.foldr_cons, List.foldr_cons, ih, h.assoc]

/-- A deciding answer decides. -/
theorem foldr_of_mem (h : IsJoin join neutral deciding) {ts : List Truth}
    (hmem : deciding ∈ ts) : ts.foldr join neutral = deciding := by
  induction ts with
  | nil => exact absurd hmem (List.not_mem_nil)
  | cons t ts ih =>
      rw [List.foldr_cons]
      rcases List.mem_cons.1 hmem with rfl | hrest
      · exact h.deciding_join _
      · rw [ih hrest]
        exact h.join_deciding t

/-- Members without an effect can be left out, and others can be replaced by members of
their own. -/
theorem foldr_kept (h : IsJoin join neutral deciding) {value : α → Truth}
    {members : α → List α}
    (hmembers : ∀ c, ((members c).map value).foldr join neutral = value c)
    {dropped : α → Bool} (hdropped : ∀ c, dropped c = true → value c = neutral)
    (items : List α) :
    (((items.filter fun c => !dropped c).flatMap members).map value).foldr join neutral =
      (items.map value).foldr join neutral := by
  induction items with
  | nil => rfl
  | cons c items ih =>
      rw [List.map_cons, List.foldr_cons, ← ih]
      cases hc : dropped c with
      | true => rw [List.filter_cons_of_neg (by simp [hc]), hdropped c hc, h.neutral_join]
      | false =>
          rw [List.filter_cons_of_pos (by simp [hc]), List.flatMap_cons, List.map_append,
            h.foldr_append, hmembers]

end IsJoin

namespace Condition

/-! ## Answers of folded conditions -/

/-- The answer of a conjunction joins those of its members. -/
theorem truthAll_eq (cs : List (Condition Cell)) (r : Record) :
    truthAll cs r = (cs.map (truth · r)).foldr Truth.and .yes := by
  induction cs with
  | nil => rw [truthAll]; rfl
  | cons c cs ih => rw [truthAll, ih, List.map_cons, List.foldr_cons]

/-- The answer of a disjunction joins those of its members. -/
theorem truthAny_eq (cs : List (Condition Cell)) (r : Record) :
    truthAny cs r = (cs.map (truth · r)).foldr Truth.or .no := by
  induction cs with
  | nil => rw [truthAny]; rfl
  | cons c cs ih => rw [truthAny, ih, List.map_cons, List.foldr_cons]

/-- A constant has its own answer. -/
theorem truth_of_isConstant {b : Bool} {c : Condition Cell} (h : isConstant b c = true)
    (r : Record) : truth c r = .ofBool b := by
  cases c <;> simp [isConstant] at h
  rw [truth, h]

/-- A condition has the answer of its conjuncts. -/
theorem truth_conjuncts (r : Record) (c : Condition Cell) :
    (c.conjuncts.map (truth · r)).foldr Truth.and .yes = truth c r := by
  cases c <;> simp only [conjuncts, List.map_cons, List.map_nil, List.foldr_cons,
    List.foldr_nil, isJoin_and.join_neutral]
  rw [truth, truthAll_eq]

/-- A condition has the answer of its disjuncts. -/
theorem truth_disjuncts (r : Record) (c : Condition Cell) :
    (c.disjuncts.map (truth · r)).foldr Truth.or .no = truth c r := by
  cases c <;> simp only [disjuncts, List.map_cons, List.map_nil, List.foldr_cons,
    List.foldr_nil, isJoin_or.join_neutral]
  rw [truth, truthAny_eq]

/-- Folding a conjunction changes no answer. -/
theorem truth_foldConj (cs : List (Condition Cell)) (r : Record) :
    truth (foldConj cs) r = truthAll cs r := by
  rw [truthAll_eq, foldConj]
  split
  · rename_i hfalse
    rcases List.any_eq_true.1 hfalse with ⟨c, hc, hconstant⟩
    have hno : Truth.no ∈ cs.map (truth · r) :=
      List.mem_map.2 ⟨c, hc, truth_of_isConstant hconstant r⟩
    rw [isJoin_and.foldr_of_mem hno, truth]
    rfl
  · have hkept := isJoin_and.foldr_kept (truth_conjuncts r)
      (fun c hc => truth_of_isConstant (b := true) hc r) cs
    rw [← hkept]
    split
    · rename_i hnil
      rw [hnil, truth]
      rfl
    · rename_i c hone
      rw [hone]
      exact (isJoin_and.join_neutral _).symm
    · rw [truth, truthAll_eq]

/-- Folding a disjunction changes no answer. -/
theorem truth_foldDisj (cs : List (Condition Cell)) (r : Record) :
    truth (foldDisj cs) r = truthAny cs r := by
  rw [truthAny_eq, foldDisj]
  split
  · rename_i htrue
    rcases List.any_eq_true.1 htrue with ⟨c, hc, hconstant⟩
    have hyes : Truth.yes ∈ cs.map (truth · r) :=
      List.mem_map.2 ⟨c, hc, truth_of_isConstant hconstant r⟩
    rw [isJoin_or.foldr_of_mem hyes, truth]
    rfl
  · have hkept := isJoin_or.foldr_kept (truth_disjuncts r)
      (fun c hc => truth_of_isConstant (b := false) hc r) cs
    rw [← hkept]
    split
    · rename_i hnil
      rw [hnil, truth]
      rfl
    · rename_i c hone
      rw [hone]
      exact (isJoin_or.join_neutral _).symm
    · rw [truth, truthAny_eq]

/-! ## Sending folded conditions -/

/-- The second condition is the first one with its values sent. -/
def Sends (c : Condition Value) (d : Condition Cell) : Prop := send c = .ok d

/-- What is sent for a condition, by its form. -/
inductive SentAs : Condition Value → Condition Cell → Prop
  | constant (b : Bool) : SentAs (.constant b) (.constant b)
  | isNull (column : String) : SentAs (.isNull column) (.isNull column)
  | compare {column relation value cell} (h : bindValue value = .ok cell) :
      SentAs (.compare column relation value) (.compare column relation cell)
  | contains (column needle : String) : SentAs (.contains column needle) (.contains column needle)
  | conj {cs ds} (h : List.Forall₂ Sends cs ds) : SentAs (.conj cs) (.conj ds)
  | disj {cs ds} (h : List.Forall₂ Sends cs ds) : SentAs (.disj cs) (.disj ds)
  | negation {c d} (h : Sends c d) : SentAs (.negation c) (.negation d)

/-- Several conditions are sent when each of them is. -/
theorem sendAll_of_sends {cs : List (Condition Value)} {ds : List (Condition Cell)}
    (h : List.Forall₂ Sends cs ds) : sendAll cs = .ok ds := by
  induction h with
  | nil => rw [sendAll]
  | cons hfirst _ ih =>
      rw [Sends] at hfirst
      rw [sendAll, hfirst, ih]

/-- When several conditions are sent, each of them is. -/
theorem sends_of_sendAll {cs : List (Condition Value)} {ds : List (Condition Cell)}
    (h : sendAll cs = .ok ds) : List.Forall₂ Sends cs ds := by
  induction cs generalizing ds with
  | nil =>
      rw [sendAll, Except.ok.injEq] at h
      exact h ▸ .nil
  | cons c cs ih =>
      rw [sendAll] at h
      split at h
      · simp at h
      · rename_i d hd
        split at h
        · simp at h
        · rename_i rest hrest
          rw [Except.ok.injEq] at h
          exact h ▸ .cons hd (ih hrest)

/-- What is sent for a condition has its form. -/
theorem sentAs_of_sends {c : Condition Value} {d : Condition Cell} (h : Sends c d) :
    SentAs c d := by
  rw [Sends] at h
  cases c <;> rw [send] at h
  case constant b => exact (Except.ok.inj h) ▸ .constant b
  case isNull column => exact (Except.ok.inj h) ▸ .isNull column
  case contains column needle => exact (Except.ok.inj h) ▸ .contains column needle
  case compare column relation value =>
    split at h
    · rename_i cell hcell
      exact (Except.ok.inj h) ▸ .compare hcell
    · simp at h
  case conj cs =>
    split at h
    · rename_i ds hds
      exact (Except.ok.inj h) ▸ .conj (sends_of_sendAll hds)
    · simp at h
  case disj cs =>
    split at h
    · rename_i ds hds
      exact (Except.ok.inj h) ▸ .disj (sends_of_sendAll hds)
    · simp at h
  case negation c =>
    split at h
    · rename_i d hd
      exact (Except.ok.inj h) ▸ .negation hd
    · simp at h

/-- A comparison is sent with the cell of its value. -/
theorem sends_compare {column : Column} {relation : Relation} {value : Value} {cell : Cell}
    (h : bindValue value = .ok cell) :
    Sends (.compare column relation value) (.compare column relation cell) := by
  rw [Sends, send, h]

/-- A constant is sent as it is. -/
theorem sends_constant (b : Bool) : Sends (.constant b) (.constant b) := by
  rw [Sends, send]

/-- A test for nothing is sent as it is. -/
theorem sends_isNull (column : String) : Sends (.isNull column) (.isNull column) := by
  rw [Sends, send]

/-- A search is sent as it is. -/
theorem sends_contains (column needle : String) :
    Sends (.contains column needle) (.contains column needle) := by
  rw [Sends, send]

/-- A conjunction is sent with its members sent. -/
theorem sends_conj {cs : List (Condition Value)} {ds : List (Condition Cell)}
    (h : List.Forall₂ Sends cs ds) : Sends (.conj cs) (.conj ds) := by
  rw [Sends, send, sendAll_of_sends h]

/-- A disjunction is sent with its members sent. -/
theorem sends_disj {cs : List (Condition Value)} {ds : List (Condition Cell)}
    (h : List.Forall₂ Sends cs ds) : Sends (.disj cs) (.disj ds) := by
  rw [Sends, send, sendAll_of_sends h]

/-- A negation is sent with its condition sent. -/
theorem sends_negation {c : Condition Value} {d : Condition Cell} (h : Sends c d) :
    Sends (.negation c) (.negation d) := by
  rw [Sends] at h
  rw [Sends, send, h]

/-- A condition is a constant when what is sent for it is. -/
theorem isConstant_of_sends {c : Condition Value} {d : Condition Cell} (h : Sends c d)
    (b : Bool) : isConstant b c = isConstant b d := by
  cases sentAs_of_sends h <;> rfl

/-- The conjuncts of a condition are sent one by one. -/
theorem sends_conjuncts {c : Condition Value} {d : Condition Cell} (h : Sends c d) :
    List.Forall₂ Sends c.conjuncts d.conjuncts := by
  cases sentAs_of_sends h with
  | conj hmembers => exact hmembers
  | _ => exact .cons h .nil

/-- The disjuncts of a condition are sent one by one. -/
theorem sends_disjuncts {c : Condition Value} {d : Condition Cell} (h : Sends c d) :
    List.Forall₂ Sends c.disjuncts d.disjuncts := by
  cases sentAs_of_sends h with
  | disj hmembers => exact hmembers
  | _ => exact .cons h .nil

/-- Some of several conditions are constants when some of those sent are. -/
theorem any_isConstant_of_sends {cs : List (Condition Value)} {ds : List (Condition Cell)}
    (h : List.Forall₂ Sends cs ds) (b : Bool) :
    cs.any (isConstant b) = ds.any (isConstant b) := by
  induction h with
  | nil => rfl
  | cons hfirst _ ih => rw [List.any_cons, List.any_cons, isConstant_of_sends hfirst, ih]

/-- What is left of several conditions without constants is sent one by one. -/
theorem sends_kept {cs : List (Condition Value)} {ds : List (Condition Cell)}
    (h : List.Forall₂ Sends cs ds) (b : Bool)
    {f : Condition Value → List (Condition Value)} {g : Condition Cell → List (Condition Cell)}
    (hmembers : ∀ {c d}, Sends c d → List.Forall₂ Sends (f c) (g d)) :
    List.Forall₂ Sends ((cs.filter fun c => !isConstant b c).flatMap f)
      ((ds.filter fun d => !isConstant b d).flatMap g) := by
  apply List.rel_flatMap
  · apply List.rel_filter _ h
    intro c d hsent
    change (!isConstant b c) = true ↔ (!isConstant b d) = true
    rw [isConstant_of_sends hsent]
  · intro c d hsent
    exact hmembers hsent

/-- A folded conjunction is sent as the fold of what is sent for its members. -/
theorem sends_foldConj {cs : List (Condition Value)} {ds : List (Condition Cell)}
    (h : List.Forall₂ Sends cs ds) : Sends (foldConj cs) (foldConj ds) := by
  have hkept := sends_kept h true sends_conjuncts
  rw [foldConj, foldConj, any_isConstant_of_sends h]
  split
  · exact sends_constant false
  · revert hkept
    generalize (cs.filter fun c => !isConstant true c).flatMap conjuncts = kept
    generalize (ds.filter fun d => !isConstant true d).flatMap conjuncts = kept'
    intro hkept
    rcases hkept with _ | ⟨hfirst, _ | ⟨hnext, hrest⟩⟩
    · exact sends_constant true
    · exact hfirst
    · exact sends_conj (.cons hfirst (.cons hnext hrest))

/-- A folded disjunction is sent as the fold of what is sent for its members. -/
theorem sends_foldDisj {cs : List (Condition Value)} {ds : List (Condition Cell)}
    (h : List.Forall₂ Sends cs ds) : Sends (foldDisj cs) (foldDisj ds) := by
  have hkept := sends_kept h false sends_disjuncts
  rw [foldDisj, foldDisj, any_isConstant_of_sends h]
  split
  · exact sends_constant true
  · revert hkept
    generalize (cs.filter fun c => !isConstant false c).flatMap disjuncts = kept
    generalize (ds.filter fun d => !isConstant false d).flatMap disjuncts = kept'
    intro hkept
    rcases hkept with _ | ⟨hfirst, _ | ⟨hnext, hrest⟩⟩
    · exact sends_constant false
    · exact hfirst
    · exact sends_disj (.cons hfirst (.cons hnext hrest))

/-- The opposite of a condition is sent as the opposite of what is sent for it. -/
theorem sends_opposite {c : Condition Value} {d : Condition Cell} (h : Sends c d) :
    Sends (opposite c) (opposite d) := by
  cases sentAs_of_sends h with
  | constant b => exact sends_constant (!b)
  | compare hcell => exact sends_compare hcell
  | negation hinner =>
      cases sentAs_of_sends hinner with
      | isNull column => exact sends_isNull column
      | contains column needle => exact sends_contains column needle
      | _ => exact sends_negation h
  | _ => exact sends_negation h

/-! ## Conditions without searches -/

/-- The condition looks for no text inside a column. -/
inductive Searchless : Condition Cell → Prop
  | constant (b : Bool) : Searchless (.constant b)
  | isNull (column : String) : Searchless (.isNull column)
  | compare (column : Column) (relation : Relation) (cell : Cell) :
      Searchless (.compare column relation cell)
  | conj {cs} (h : ∀ c ∈ cs, Searchless c) : Searchless (.conj cs)
  | disj {cs} (h : ∀ c ∈ cs, Searchless c) : Searchless (.disj cs)
  | negation {c} (h : Searchless c) : Searchless (.negation c)

/-- A test by several conditions goes to its end when each of them is tested to its
end. -/
theorem overrunsWhile_eq_false (selecting : Bool) {cs : List (Condition Cell)} {r : Record}
    (h : ∀ c ∈ cs, overruns c r = false) : overrunsWhile selecting cs r = false := by
  induction cs with
  | nil => rw [overrunsWhile]
  | cons c cs ih =>
      rw [overrunsWhile, h c (by simp), ih fun d hd => h d (by simp [hd]), Bool.and_false]
      rfl

/-- A condition without searches is tested to its end. -/
theorem overruns_of_searchless {c : Condition Cell} (h : Searchless c) (r : Record) :
    overruns c r = false := by
  induction h with
  | constant b => rw [overruns]
  | isNull column => rw [overruns]
  | compare column relation cell => rw [overruns]
  | conj _ ih =>
      rw [overruns]
      exact overrunsWhile_eq_false true ih
  | disj _ ih =>
      rw [overruns]
      exact overrunsWhile_eq_false false ih
  | negation _ ih => rw [overruns_negation, ih]

/-- The conjuncts of a condition without searches have none. -/
theorem searchless_conjuncts {c : Condition Cell} (h : Searchless c) :
    ∀ d ∈ c.conjuncts, Searchless d := by
  have hself := h
  cases h with
  | conj hmembers => exact hmembers
  | _ => exact List.forall_mem_singleton.2 hself

/-- The disjuncts of a condition without searches have none. -/
theorem searchless_disjuncts {c : Condition Cell} (h : Searchless c) :
    ∀ d ∈ c.disjuncts, Searchless d := by
  have hself := h
  cases h with
  | disj hmembers => exact hmembers
  | _ => exact List.forall_mem_singleton.2 hself

/-- What is left of conditions without searches has none. -/
theorem searchless_kept {cs : List (Condition Cell)} (h : ∀ c ∈ cs, Searchless c)
    {members : Condition Cell → List (Condition Cell)}
    (hmembers : ∀ {c}, Searchless c → ∀ d ∈ members c, Searchless d)
    (p : Condition Cell → Bool) : ∀ d ∈ (cs.filter p).flatMap members, Searchless d := by
  intro d hd
  rcases List.mem_flatMap.1 hd with ⟨c, hc, hd⟩
  exact hmembers (h c (List.mem_of_mem_filter hc)) d hd

/-- A folded conjunction of conditions without searches has none. -/
theorem searchless_foldConj {cs : List (Condition Cell)} (h : ∀ c ∈ cs, Searchless c) :
    Searchless (foldConj cs) := by
  have hkept := searchless_kept h searchless_conjuncts fun c => !isConstant true c
  rw [foldConj]
  split
  · exact .constant false
  · split
    · exact .constant true
    · rename_i c hone
      exact hkept c (by simp [hone])
    · exact .conj hkept

/-- A folded disjunction of conditions without searches has none. -/
theorem searchless_foldDisj {cs : List (Condition Cell)} (h : ∀ c ∈ cs, Searchless c) :
    Searchless (foldDisj cs) := by
  have hkept := searchless_kept h searchless_disjuncts fun c => !isConstant false c
  rw [foldDisj]
  split
  · exact .constant true
  · split
    · exact .constant false
    · rename_i c hone
      exact hkept c (by simp [hone])
    · exact .disj hkept

/-- The opposite of a condition without searches has none. -/
theorem searchless_opposite {c : Condition Cell} (h : Searchless c) :
    Searchless (opposite c) := by
  have hself := h
  cases h with
  | constant b => exact .constant (!b)
  | compare column relation cell => exact .compare column relation.opposite cell
  | negation hinner =>
      have hinnerself := hinner
      cases hinner with
      | isNull column => exact .isNull column
      | _ => exact .negation (.negation hinnerself)
  | _ => exact .negation hself

end Condition

end Relational
end PagedQuery
