import PagedQuery.Proofs.BadArguments
import PagedQuery.Proofs.ConditionTruth
import PagedQuery.Proofs.FilterMeaning

/-!
# Conditions of filters

The filters of a request become conditions one after another, and the first name or value
that a condition cannot be made of decides.  The conditions that are made are sent with the
values of the filters, and what is sent fails only for such a value.

Main results:

- Theorem `coerce_isScalar`: the value of a filter that was read is of a kind that can be
  sent.
- Theorem `ofPredicates_joined`: filters become conditions unless there is an objection.
- Theorem `send_error` and Theorem `bindValue_of_send`: sending fails exactly for an operand.
- Theorem `operands_foldConj` and Theorem `operands_foldDisj`: folding keeps the operands.
-/

namespace PagedQuery

/-! ## Values that were read -/

/-- The value is of a kind that the text of a filter stands for. -/
def Value.isScalar : Value → Bool
  | .bool _ | .int _ | .double _ | .text _ | .date _ => true
  | _ => false

/-- The value that a text stands for is of such a kind. -/
theorem coerce_isScalar {type : PropertyType} {raw : String} {v : Value}
    (h : type.coerce raw = .ok v) : v.isScalar = true := by
  have hmap : ∀ {α : Type} {x : Except Coercion.Rejection α} {g : α → Value},
      (∀ a, (g a).isScalar = true) → x.map g = .ok v → v.isScalar = true := by
    intro α x g hg hx
    cases x with
    | error rejection => cases hx
    | ok a => exact (Except.ok.inj hx) ▸ hg a
  cases type <;> rw [PropertyType.coerce] at h
  case boolean => exact hmap (fun _ => rfl) h
  case integer => exact hmap (fun _ => rfl) h
  case long => exact hmap (fun _ => rfl) h
  case float => exact hmap (fun _ => rfl) h
  case double => exact hmap (fun _ => rfl) h
  case string => exact (Except.ok.inj h) ▸ rfl
  case date =>
    split at h
    · exact (Except.ok.inj h) ▸ rfl
    · cases h

/-- The value of a filter that was read is of such a kind. -/
theorem parse_isScalar {spec : String} {raw : Option String} {f : PropertyFilter}
    (h : PropertyFilter.parse spec raw = .ok f) : f.value.isScalar = true := by
  obtain ⟨text, -, hvalue⟩ := (PropertyFilter.parse_reads h).value
  exact coerce_isScalar hvalue

/-- The match type asks how a property stands to a truth value. -/
def MatchType.ordersTruth (m : MatchType) (v : Value) : Bool :=
  match m, v with
  | gt, .bool _ | ge, .bool _ | lt, .bool _ | le, .bool _ => true
  | _, _ => false

namespace Relational

/-! ## Operands -/

namespace Condition

mutual
/-- The values that a condition compares columns with, from left to right. -/
def operands : Condition Value → List Value
  | constant _ | isNull _ | contains _ _ => []
  | compare _ _ value => [value]
  | conj conditions => operandsOf conditions
  | disj conditions => operandsOf conditions
  | negation condition => operands condition

/-- The values of several conditions. -/
def operandsOf : List (Condition Value) → List Value
  | [] => []
  | condition :: conditions => operands condition ++ operandsOf conditions
end

/-- The operands of several conditions are those of each. -/
theorem operandsOf_eq (cs : List (Condition Value)) : operandsOf cs = cs.flatMap operands := by
  induction cs with
  | nil => rfl
  | cons c cs ih => rw [operandsOf, ih, List.flatMap_cons]

mutual
/-- What fails to be sent has an operand that does. -/
theorem send_error : (c : Condition Value) → {failure : Failure} → send c = .error failure →
    ∃ v ∈ c.operands, bindValue v = .error failure
  | constant _, _, h => by rw [send] at h; cases h
  | isNull _, _, h => by rw [send] at h; cases h
  | contains _ _, _, h => by rw [send] at h; cases h
  | compare column relation value, failure, h => by
      rw [send] at h
      split at h
      · cases h
      · rename_i hvalue
        cases h
        exact ⟨value, by simp [operands], hvalue⟩
  | conj conditions, failure, h => by
      rw [send] at h
      split at h
      · cases h
      · rename_i hall
        cases h
        rw [operands]
        exact sendAll_error conditions hall
  | disj conditions, failure, h => by
      rw [send] at h
      split at h
      · cases h
      · rename_i hall
        cases h
        rw [operands]
        exact sendAll_error conditions hall
  | negation condition, failure, h => by
      rw [send] at h
      split at h
      · cases h
      · rename_i hinner
        cases h
        rw [operands]
        exact send_error condition hinner

/-- When several conditions fail to be sent, one of their operands does. -/
theorem sendAll_error : (cs : List (Condition Value)) → {failure : Failure} →
    sendAll cs = .error failure → ∃ v ∈ operandsOf cs, bindValue v = .error failure
  | [], _, h => by rw [sendAll] at h; cases h
  | c :: cs, failure, h => by
      rw [sendAll] at h
      rw [operandsOf]
      split at h
      · rename_i hfirst
        cases h
        obtain ⟨v, hv, hbind⟩ := send_error c hfirst
        exact ⟨v, List.mem_append_left _ hv, hbind⟩
      · split at h
        · rename_i hrest
          cases h
          obtain ⟨v, hv, hbind⟩ := sendAll_error cs hrest
          exact ⟨v, List.mem_append_right _ hv, hbind⟩
        · cases h
end

mutual
/-- What is sent has operands that can be sent. -/
theorem bindValue_of_send : (c : Condition Value) → {d : Condition Cell} → send c = .ok d →
    ∀ v ∈ c.operands, ∃ cell, bindValue v = .ok cell
  | constant _, _, _ => by rw [operands]; exact List.forall_mem_nil _
  | isNull _, _, _ => by rw [operands]; exact List.forall_mem_nil _
  | contains _ _, _, _ => by rw [operands]; exact List.forall_mem_nil _
  | compare column relation value, d, h => by
      rw [send] at h
      split at h
      · rename_i cell hvalue
        rw [operands, List.forall_mem_singleton]
        exact ⟨cell, hvalue⟩
      · cases h
  | conj conditions, d, h => by
      rw [send] at h
      split at h
      · rename_i hall
        rw [operands]
        exact bindValue_of_sendAll conditions hall
      · cases h
  | disj conditions, d, h => by
      rw [send] at h
      split at h
      · rename_i hall
        rw [operands]
        exact bindValue_of_sendAll conditions hall
      · cases h
  | negation condition, d, h => by
      rw [send] at h
      split at h
      · rename_i hinner
        rw [operands]
        exact bindValue_of_send condition hinner
      · cases h

/-- When several conditions are sent, all their operands can be. -/
theorem bindValue_of_sendAll : (cs : List (Condition Value)) → {ds : List (Condition Cell)} →
    sendAll cs = .ok ds → ∀ v ∈ operandsOf cs, ∃ cell, bindValue v = .ok cell
  | [], _, _ => by rw [operandsOf]; exact List.forall_mem_nil _
  | c :: cs, ds, h => by
      rw [sendAll] at h
      split at h
      · cases h
      · rename_i hfirst
        split at h
        · cases h
        · rename_i hrest
          rw [operandsOf, List.forall_mem_append]
          exact ⟨bindValue_of_send c hfirst, bindValue_of_sendAll cs hrest⟩
end

/-! ## Operands of folded conditions -/

/-- The condition is no constant. -/
def IsOpen (c : Condition Value) : Prop := ∀ b, isConstant b c = false

/-- None of several conditions is a constant. -/
theorem any_isConstant_of_open {cs : List (Condition Value)} (h : ∀ c ∈ cs, IsOpen c)
    (b : Bool) : cs.any (isConstant b) = false := by
  rw [List.any_eq_false]
  intro c hc
  rw [h c hc b]
  exact Bool.false_ne_true

/-- Where none of several conditions is a constant, all of them are kept. -/
theorem filter_of_open {cs : List (Condition Value)} (h : ∀ c ∈ cs, IsOpen c) (b : Bool) :
    (cs.filter fun c => !isConstant b c) = cs := by
  rw [List.filter_eq_self]
  intro c hc
  rw [h c hc b]
  rfl

/-- The members of a conjunction have its operands. -/
theorem operands_conjuncts (c : Condition Value) : c.conjuncts.flatMap operands = c.operands := by
  cases c <;> simp [conjuncts, operands, operandsOf_eq]

/-- The members of a disjunction have its operands. -/
theorem operands_disjuncts (c : Condition Value) : c.disjuncts.flatMap operands = c.operands := by
  cases c <;> simp [disjuncts, operands, operandsOf_eq]

/-- A folded conjunction has the operands of its members. -/
theorem operands_foldConj {cs : List (Condition Value)} (h : ∀ c ∈ cs, IsOpen c) :
    (foldConj cs).operands = cs.flatMap operands := by
  have hkept : (cs.flatMap conjuncts).flatMap operands = cs.flatMap operands := by
    rw [List.flatMap_assoc]
    simp only [operands_conjuncts]
  rw [foldConj, any_isConstant_of_open h, filter_of_open h, ← hkept]
  simp only [Bool.false_eq_true, if_false]
  rcases cs.flatMap conjuncts with _ | ⟨c, _ | ⟨next, rest⟩⟩
  · simp [operands]
  · simp
  · simp only [operands, operandsOf_eq]

/-- A folded disjunction has the operands of its members. -/
theorem operands_foldDisj {cs : List (Condition Value)} (h : ∀ c ∈ cs, IsOpen c) :
    (foldDisj cs).operands = cs.flatMap operands := by
  have hkept : (cs.flatMap disjuncts).flatMap operands = cs.flatMap operands := by
    rw [List.flatMap_assoc]
    simp only [operands_disjuncts]
  rw [foldDisj, any_isConstant_of_open h, filter_of_open h, ← hkept]
  simp only [Bool.false_eq_true, if_false]
  rcases cs.flatMap disjuncts with _ | ⟨c, _ | ⟨next, rest⟩⟩
  · simp [operands]
  · simp
  · simp only [operands, operandsOf_eq]

/-- The condition compares one column. -/
inductive IsAtom : Condition Value → Prop
  | compare (column : Column) (relation : Relation) (value : Value) :
      IsAtom (.compare column relation value)
  | contains (column needle : String) : IsAtom (.contains column needle)

/-- A comparison is no constant. -/
theorem IsAtom.isOpen {c : Condition Value} (h : IsAtom c) : IsOpen c := by
  intro b
  cases h <;> rfl

/-- A disjunction of comparisons, at least one, is no constant. -/
theorem isOpen_foldDisj {cs : List (Condition Value)} (h : ∀ c ∈ cs, IsAtom c)
    (hsome : cs ≠ []) : IsOpen (foldDisj cs) := by
  have hopen : ∀ c ∈ cs, IsOpen c := fun c hc => (h c hc).isOpen
  have hmembers : cs.flatMap disjuncts = cs := by
    have hone : ∀ c ∈ cs, disjuncts c = [c] := by
      intro c hc
      cases h c hc <;> rfl
    rw [List.flatMap_congr hone]
    simp
  rw [foldDisj, any_isConstant_of_open hopen, filter_of_open hopen, hmembers]
  simp only [Bool.false_eq_true, if_false]
  rcases cs with _ | ⟨c, _ | ⟨next, rest⟩⟩
  · exact absurd rfl hsome
  · exact hopen c List.mem_cons_self
  · exact fun _ => rfl

end Condition

/-! ## Objections -/

/-- A computation fails with an objection if there is one, and else it has a value as
wanted. -/
def EndsAs {α : Type} (x : Except Failure α) (objection : Option Failure) (wanted : α → Prop) :
    Prop :=
  match objection with
  | some failure => x = .error failure
  | none => ∃ a, x = .ok a ∧ wanted a

/-- What is made of a value is made of it unless there is an objection. -/
theorem EndsAs.map {α β : Type} {x : Except Failure α} {objection : Option Failure}
    {wanted : α → Prop} {wanted' : β → Prop} (h : EndsAs x objection wanted) {g : α → β}
    (hg : ∀ a, wanted a → wanted' (g a)) : EndsAs (x.map g) objection wanted' := by
  cases objection with
  | some failure =>
      rw [EndsAs] at h
      rw [h]
      rfl
  | none =>
      obtain ⟨a, rfl, ha⟩ := h
      exact ⟨g a, rfl, hg a ha⟩

/-- Every item has a condition as wanted, and every condition is one of some item. -/
structure Match {α : Type} (wanted : α → Condition Value → Prop) (items : List α)
    (cs : List (Condition Value)) : Prop where
  left : ∀ a ∈ items, ∃ c ∈ cs, wanted a c
  right : ∀ c ∈ cs, ∃ a ∈ items, wanted a c

/-- One more item with its condition. -/
theorem Match.cons {α : Type} {wanted : α → Condition Value → Prop} {items : List α}
    {cs : List (Condition Value)} {a : α} {c : Condition Value} (hfirst : wanted a c)
    (hrest : Match wanted items cs) : Match wanted (a :: items) (c :: cs) := by
  constructor
  · rw [List.forall_mem_cons]
    refine ⟨⟨c, List.mem_cons_self, hfirst⟩, fun b hb => ?_⟩
    obtain ⟨d, hd, hwanted⟩ := hrest.left b hb
    exact ⟨d, List.mem_cons_of_mem c hd, hwanted⟩
  · rw [List.forall_mem_cons]
    refine ⟨⟨a, List.mem_cons_self, hfirst⟩, fun d hd => ?_⟩
    obtain ⟨b, hb, hwanted⟩ := hrest.right d hd
    exact ⟨b, List.mem_cons_of_mem a hb, hwanted⟩

/-- Several predicates become conditions one after another, and the first objection
decides. -/
theorem ofPredicates_endsAs {α : Type} {s : Schema} {items : List α} {p : α → Predicate}
    {objection : α → Option Failure} {wanted : α → Condition Value → Prop}
    (h : ∀ a ∈ items, EndsAs (Condition.ofPredicate s (p a)) (objection a) (wanted a)) :
    EndsAs (Condition.ofPredicates s (items.map p)) (items.findSome? objection)
      (Match wanted items) := by
  induction items with
  | nil =>
      refine ⟨[], by rw [List.map_nil, Condition.ofPredicates], ?_, ?_⟩
      · exact List.forall_mem_nil _
      · exact List.forall_mem_nil _
  | cons a items ih =>
      have hfirst := h a List.mem_cons_self
      have hrest := ih fun b hb => h b (List.mem_cons_of_mem a hb)
      rw [List.map_cons, List.findSome?_cons, Condition.ofPredicates]
      cases ha : objection a with
      | some failure =>
          rw [ha] at hfirst
          rw [EndsAs] at hfirst
          simp only [EndsAs, hfirst]
      | none =>
          rw [ha] at hfirst
          obtain ⟨c, hc, hwanted⟩ := hfirst
          simp only [hc]
          cases hobjection : items.findSome? objection with
          | some failure =>
              rw [hobjection, EndsAs] at hrest
              simp only [EndsAs, hrest]
          | none =>
              rw [hobjection] at hrest
              obtain ⟨cs, hcs, hall⟩ := hrest
              exact ⟨c :: cs, by rw [hcs], .cons hwanted hall⟩

/-- What stands against a comparison of a property with the value of a filter: there is no
such property, or the order of a truth value is asked for. -/
def objection (s : Schema) (f : PropertyFilter) (name : String) : Option Failure :=
  match s.column? name with
  | none => some (unmappedProperty s.entity name)
  | some _ => if f.matchType.ordersTruth f.value then some (.engine .argument) else none

/-- The first objection to the filters of a request. -/
def firstObjection (s : Schema) (fs : List PropertyFilter) : Option Failure :=
  fs.findSome? fun f => f.names.findSome? (objection s f)

/-- A condition that was made of a filter is no constant and compares with the value of the
filter, unless it looks for a text. -/
structure MadeOf (f : PropertyFilter) (c : Condition Value) : Prop where
  isOpen : c.IsOpen
  only : ∀ v ∈ c.operands, v = f.value
  there : f.matchType ≠ .like → f.value ∈ c.operands

/-- A column is compared with a value that was read, unless the order of a truth value is
asked for. -/
theorem ofComparison_scalar (column : Column) {m : MatchType} (hm : m ≠ .like) {v : Value}
    (hv : v.isScalar = true) : ∃ relation, Condition.ofComparison column m.operator v =
      if m.ordersTruth v then .error (.engine .argument)
      else .ok (.compare column relation v) := by
  cases m with
  | like => exact absurd rfl hm
  | eq => exact ⟨.eq, by cases v <;> first | rfl | cases hv⟩
  | ne => exact ⟨.ne, by cases v <;> first | rfl | cases hv⟩
  | gt => exact ⟨.gt, by cases v <;> first | rfl | cases hv⟩
  | ge => exact ⟨.ge, by cases v <;> first | rfl | cases hv⟩
  | lt => exact ⟨.lt, by cases v <;> first | rfl | cases hv⟩
  | le => exact ⟨.le, by cases v <;> first | rfl | cases hv⟩

section

variable {s : Schema} {f : PropertyFilter} (hsound : f.IsSound)
  (hscalar : f.value.isScalar = true)

include hsound hscalar

/-- A column is compared with the value of a filter, unless the order of a truth value is
asked for. -/
theorem ofComparison_endsAs (column : Column) :
    EndsAs (Condition.ofComparison column f.matchType.operator f.value)
      (if f.matchType.ordersTruth f.value then some (.engine .argument) else none)
      (fun c => c.IsAtom ∧ MadeOf f c) := by
  by_cases hmatch : f.matchType = .like
  · have htext := hsound hmatch
    rw [hmatch]
    cases hvalue : f.value with
    | text needle =>
        refine ⟨.contains column.name needle, rfl, .contains _ _, fun _ => rfl, ?_, ?_⟩
        · rw [Condition.operands]
          exact List.forall_mem_nil _
        · exact fun hne => absurd hmatch hne
    | _ =>
        rw [hvalue] at htext
        cases htext
  · obtain ⟨relation, hrelation⟩ := ofComparison_scalar column hmatch hscalar
    rw [hrelation]
    cases f.matchType.ordersTruth f.value with
    | true => rfl
    | false =>
        refine ⟨_, rfl, .compare _ _ _, fun _ => rfl, ?_, ?_⟩
        · rw [Condition.operands]
          exact fun v => List.mem_singleton.1
        · intro _
          rw [Condition.operands]
          exact List.mem_singleton_self _

/-- A comparison that a filter makes becomes a condition unless there is an objection. -/
theorem ofPredicate_comparison (name : String) :
    EndsAs (Condition.ofPredicate s (f.comparison name)) (objection s f name)
      (fun c => c.IsAtom ∧ MadeOf f c) := by
  rw [PropertyFilter.comparison, Condition.ofPredicate, Schema.column, objection]
  cases s.column? name with
  | none => rfl
  | some column => exact ofComparison_endsAs hsound hscalar column

/-- A filter becomes a condition unless there is an objection to one of its names. -/
theorem ofPredicate_joined :
    EndsAs (Condition.ofPredicate s f.joined) (f.names.findSome? (objection s f))
      (MadeOf f) := by
  have hone : ∀ name, EndsAs (Condition.ofPredicate s (f.comparison name)) (objection s f name)
      (fun c => c.IsAtom ∧ MadeOf f c) :=
    ofPredicate_comparison hsound hscalar
  have hall := ofPredicates_endsAs fun name (_ : name ∈ f.names) => hone name
  rw [PropertyFilter.joined]
  rcases hnames : f.names with _ | ⟨name, _ | ⟨next, rest⟩⟩
  · exact absurd hnames f.names_ne_nil
  · have hsingle : [name].findSome? (objection s f) = objection s f name := by
      rw [List.findSome?_cons]
      cases objection s f name <;> rfl
    rw [hsingle]
    have hid : ∀ x : Except Failure (Condition Value), x.map id = x := by
      intro x
      cases x <;> rfl
    rw [← hid (Condition.ofPredicate s (f.comparison name))]
    exact (hone name).map fun c hc => hc.2
  · have hany : Condition.ofPredicate s (.any ((name :: next :: rest).map f.comparison)) =
        (Condition.ofPredicates s ((name :: next :: rest).map f.comparison)).map
          Condition.foldDisj := by
      rw [Condition.ofPredicate]
      cases Condition.ofPredicates s ((name :: next :: rest).map f.comparison) <;> rfl
    rw [hnames] at hall
    change EndsAs (Condition.ofPredicate s (.any _)) _ _
    rw [hany]
    refine hall.map fun cs hcs => ?_
    have hatoms : ∀ c ∈ cs, c.IsAtom ∧ MadeOf f c := by
      intro c hc
      obtain ⟨_, -, h⟩ := hcs.right c hc
      exact h
    obtain ⟨c, hc, -, hmade⟩ := hcs.left name List.mem_cons_self
    have hoperands := Condition.operands_foldDisj fun c hc => (hatoms c hc).2.isOpen
    constructor
    · exact Condition.isOpen_foldDisj (fun c hc => (hatoms c hc).1) (List.ne_nil_of_mem hc)
    · intro v hv
      rw [hoperands, List.mem_flatMap] at hv
      obtain ⟨d, hd, hv⟩ := hv
      exact (hatoms d hd).2.only v hv
    · intro hmatch
      rw [hoperands]
      exact List.mem_flatMap_of_mem hc (hmade.there hmatch)

end

/-- The filters of a request become conditions unless there is an objection. -/
theorem ofPredicates_joined {s : Schema} {fs : List PropertyFilter}
    (hsound : ∀ f ∈ fs, f.IsSound) (hscalar : ∀ f ∈ fs, f.value.isScalar = true) :
    EndsAs (Condition.ofPredicates s (fs.map PropertyFilter.joined)) (firstObjection s fs)
      (Match MadeOf fs) :=
  ofPredicates_endsAs fun f hf => ofPredicate_joined (hsound f hf) (hscalar f hf)

/-! ## Sending the values of filters -/

/-- The value of some filter is a whole number that a database cannot store. -/
def HasOversized (fs : List PropertyFilter) : Prop :=
  ∃ f ∈ fs, ∃ n, f.value = .int n ∧ fitsInteger n = false

/-- A value that was read can be sent, unless it is a whole number that is too large. -/
theorem bindValue_scalar {v : Value} (hv : v.isScalar = true) :
    (∃ cell, bindValue v = .ok cell) ∨
      bindValue v = .error .overflow ∧ ∃ n, v = .int n ∧ fitsInteger n = false := by
  cases v with
  | int n =>
      rw [bindValue, sendValue]
      cases hfits : fitsInteger n with
      | true => exact .inl ⟨_, rfl⟩
      | false => exact .inr ⟨rfl, n, rfl, hfits⟩
  | bool b => exact .inl ⟨_, rfl⟩
  | double x => exact .inl ⟨_, rfl⟩
  | text s => exact .inl ⟨_, rfl⟩
  | date d => exact .inl ⟨_, rfl⟩
  | _ => cases hv

variable {fs : List PropertyFilter} {cs : List (Condition Value)}

/-- The condition of filters can be sent unless the value of one of them is too large. -/
theorem send_filters (hsound : ∀ f ∈ fs, f.IsSound)
    (hscalar : ∀ f ∈ fs, f.value.isScalar = true) (hmade : Match MadeOf fs cs) :
    (HasOversized fs → (Condition.foldConj cs).send = .error .overflow) ∧
      (¬HasOversized fs → ∃ d, (Condition.foldConj cs).send = .ok d) := by
  have hopen : ∀ c ∈ cs, c.IsOpen := by
    intro c hc
    obtain ⟨f, -, hfrom⟩ := hmade.right c hc
    exact hfrom.isOpen
  have hfails : ∀ failure, (Condition.foldConj cs).send = .error failure →
      failure = .overflow ∧ HasOversized fs := by
    intro failure hsend
    obtain ⟨v, hv, hbind⟩ := Condition.send_error _ hsend
    rw [Condition.operands_foldConj hopen, List.mem_flatMap] at hv
    obtain ⟨c, hc, hv⟩ := hv
    obtain ⟨f, hf, hfrom⟩ := hmade.right c hc
    obtain rfl := hfrom.only v hv
    rcases bindValue_scalar (hscalar f hf) with ⟨cell, hcell⟩ | ⟨hoverflow, n, hn, hlarge⟩
    · rw [hcell] at hbind
      cases hbind
    · rw [hoverflow] at hbind
      exact ⟨(Except.error.inj hbind).symm, f, hf, n, hn, hlarge⟩
  constructor
  · rintro ⟨f, hf, n, hn, hlarge⟩
    have hmatch : f.matchType ≠ .like := by
      intro hlike
      have htext := hsound f hf hlike
      rw [hn] at htext
      cases htext
    obtain ⟨c, hc, hfrom⟩ := hmade.left f hf
    have hmem : f.value ∈ (Condition.foldConj cs).operands := by
      rw [Condition.operands_foldConj hopen]
      exact List.mem_flatMap_of_mem hc (hfrom.there hmatch)
    cases hsend : (Condition.foldConj cs).send with
    | error failure => rw [(hfails failure hsend).1]
    | ok d =>
        obtain ⟨cell, hcell⟩ := Condition.bindValue_of_send _ hsend _ hmem
        rw [hn, bindValue, sendValue, hlarge] at hcell
        cases hcell
  · intro hfit
    cases hsend : (Condition.foldConj cs).send with
    | error failure => exact absurd (hfails failure hsend).2 hfit
    | ok d => exact ⟨d, rfl⟩

end Relational
end PagedQuery
