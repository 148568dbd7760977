import PagedQuery.Proofs.Matching

/-!
# Laws of predicates

Evaluation stops at the first member that decides, and a comparison may fail, so which
comparisons are reached can be seen.  Conjunction and disjunction do not commute, then, but
they are associative, conjunction distributes over a disjunction that stands behind it, and
negation turns one into the other: in each of these laws both sides come to the same
comparison that decides or fails.

Conditions are taken as they answer on rows, so that the laws hold of predicates as well as
of conditions that a caller brings along.

Main results:

- Theorem `all_nested` and Theorem `any_nested`: a member that is a group of the same kind
  can be replaced by its members.
- Theorem `not_all` and Theorem `not_any`: negating a group negates its members.
- Theorem `and_any`: conjunction distributes over a disjunction of some members.
- Theorem `predicate_laws`: predicates obey these laws, and a query does not tell several
  predicates from their conjunction.
-/

namespace PagedQuery

/-- A condition as it answers on rows: by a truth, or by a failure. -/
abbrev Test := Value → Except Failure Bool

namespace Test

/-! ## Joining two conditions -/

/-- The opposite answer. -/
def not (t : Test) : Test := fun row =>
  match t row with
  | .ok met => .ok (!met)
  | .error failure => .error failure

/-- The answer of the second condition where the first one is met. -/
def and (t u : Test) : Test := fun row =>
  match t row with
  | .ok true => u row
  | .ok false => .ok false
  | .error failure => .error failure

/-- The answer of the second condition where the first one is not met. -/
def or (t u : Test) : Test := fun row =>
  match t row with
  | .ok true => .ok true
  | .ok false => u row
  | .error failure => .error failure

/-- The condition that every row meets. -/
def always : Test := fun _ => .ok true

/-- The condition that no row meets. -/
def never : Test := fun _ => .ok false

section

variable (t u v : Test)

@[simp]
theorem not_not : t.not.not = t := by
  funext row
  simp only [not]
  rcases t row with failure | met <;> simp

/-- Negating a conjunction negates both sides. -/
theorem not_and : (t.and u).not = t.not.or u.not := by
  funext row
  simp only [not, and, or]
  rcases t row with failure | met | met <;> rfl

/-- Negating a disjunction negates both sides. -/
theorem not_or : (t.or u).not = t.not.and u.not := by
  funext row
  simp only [not, and, or]
  rcases t row with failure | met | met <;> rfl

/-- Conjunctions can be taken from either end. -/
theorem and_assoc : (t.and u).and v = t.and (u.and v) := by
  funext row
  simp only [and]
  rcases t row with failure | met | met <;> rfl

/-- Disjunctions can be taken from either end. -/
theorem or_assoc : (t.or u).or v = t.or (u.or v) := by
  funext row
  simp only [or]
  rcases t row with failure | met | met <;> rfl

/-- A condition in front of a disjunction goes to both of its sides.  Where the condition is
not met, both sides are looked at, but neither gets past it. -/
theorem and_or : t.and (u.or v) = (t.and u).or (t.and v) := by
  funext row
  simp only [and, or]
  rcases t row with failure | met | met <;> rfl

@[simp]
theorem and_always : t.and always = t := by
  funext row
  simp only [and, always]
  rcases t row with failure | met | met <;> rfl

@[simp]
theorem or_never : t.or never = t := by
  funext row
  simp only [or, never]
  rcases t row with failure | met | met <;> rfl

end

/-! ## Groups of conditions -/

/-- The conjunction of several conditions. -/
def all : List Test → Test
  | [] => always
  | t :: ts => t.and (all ts)

/-- The disjunction of several conditions. -/
def any : List Test → Test
  | [] => never
  | t :: ts => t.or (any ts)

variable (before ts after : List Test)

/-- A conjunction can be split anywhere. -/
theorem all_append (us : List Test) : all (ts ++ us) = (all ts).and (all us) := by
  induction ts with
  | nil => rfl
  | cons t ts ih => rw [List.cons_append, all, all, ih, and_assoc]

/-- A disjunction can be split anywhere. -/
theorem any_append (us : List Test) : any (ts ++ us) = (any ts).or (any us) := by
  induction ts with
  | nil => rfl
  | cons t ts ih => rw [List.cons_append, any, any, ih, or_assoc]

/-- A conjunction among the members of one can be replaced by its members. -/
theorem all_nested : all (before ++ all ts :: after) = all (before ++ ts ++ after) := by
  rw [all_append, all_append, all_append, all, and_assoc]

/-- A disjunction among the members of one can be replaced by its members. -/
theorem any_nested : any (before ++ any ts :: after) = any (before ++ ts ++ after) := by
  rw [any_append, any_append, any_append, any, or_assoc]

/-- A conjunction on its own is the conjunction of its members. -/
theorem all_single : all [all ts] = all ts := by
  rw [all, all, and_always]

/-- Negating a conjunction negates its members. -/
theorem not_all : (all ts).not = any (ts.map not) := by
  induction ts with
  | nil => rfl
  | cons t ts ih => rw [all, not_and, ih, List.map_cons, any]

/-- Negating a disjunction negates its members. -/
theorem not_any : (any ts).not = all (ts.map not) := by
  induction ts with
  | nil => rfl
  | cons t ts ih => rw [any, not_or, ih, List.map_cons, all]

/-- A condition in front of a disjunction of some members goes to each of them.  Without
members the disjunction would not look at the condition any more. -/
theorem and_any (t : Test) {ts : List Test} (h : ts ≠ []) :
    t.and (any ts) = any (ts.map t.and) := by
  induction ts with
  | nil => exact absurd rfl h
  | cons u us ih =>
      cases us with
      | nil => rw [any, List.map_singleton, any, any, any, or_never, or_never]
      | cons u' us =>
          rw [any, and_or, ih (List.cons_ne_nil u' us)]
          rfl

end Test

/-! ## Kinds of conditions -/

/-- Conditions of a kind obey the laws of conjunction, disjunction and negation: on each
side of a law the same answer, or the same failure. -/
structure ObeysLaws {κ : Type} (answer : κ → Test) (all any : List κ → κ) (not : κ → κ) :
    Prop where
  not_not : ∀ k, answer (not (not k)) = answer k
  not_all : ∀ ks, answer (not (all ks)) = answer (any (ks.map not))
  not_any : ∀ ks, answer (not (any ks)) = answer (all (ks.map not))
  all_nested : ∀ before ks after,
    answer (all (before ++ all ks :: after)) = answer (all (before ++ ks ++ after))
  any_nested : ∀ before ks after,
    answer (any (before ++ any ks :: after)) = answer (any (before ++ ks ++ after))
  all_any : ∀ k ks, ks ≠ [] →
    answer (all [k, any ks]) = answer (any (ks.map fun other => all [k, other]))

/-- Conditions whose groups and negations answer as their members make them answer obey the
laws. -/
theorem ObeysLaws.of_answers {κ : Type} {answer : κ → Test} {all any : List κ → κ}
    {not : κ → κ} (hall : ∀ ks, answer (all ks) = Test.all (ks.map answer))
    (hany : ∀ ks, answer (any ks) = Test.any (ks.map answer))
    (hnot : ∀ k, answer (not k) = (answer k).not) : ObeysLaws answer all any not := by
  have hmapNot : ∀ ks : List κ, (ks.map not).map answer = (ks.map answer).map Test.not := by
    intro ks
    rw [List.map_map, List.map_map]
    exact List.map_congr_left fun k _ => hnot k
  have hboth : ∀ k other, answer (all [k, other]) = (answer k).and (answer other) := by
    intro k other
    rw [hall, List.map_cons, List.map_singleton, Test.all, Test.all, Test.all, Test.and_always]
  constructor
  · intro k
    rw [hnot, hnot, Test.not_not]
  · intro ks
    rw [hnot, hall, hany, Test.not_all, hmapNot]
  · intro ks
    rw [hnot, hany, hall, Test.not_any, hmapNot]
  · intro before ks after
    simp only [hall, List.map_append, List.map_cons, Test.all_nested]
  · intro before ks after
    simp only [hany, List.map_append, List.map_cons, Test.any_nested]
  · intro k ks hsome
    have hsome : ks.map answer ≠ [] := by simpa using hsome
    rw [hboth, hany, hany, Test.and_any _ hsome, List.map_map, List.map_map]
    congr 1
    exact List.map_congr_left fun other _ => (hboth k other).symm

namespace Predicate

/-- Several predicates answer as their conjunction. -/
theorem holdsAll_all (ps : List Predicate) : holdsAll ps = Test.all (ps.map holds) := by
  induction ps with
  | nil => rfl
  | cons p ps ih =>
      have hcons : holdsAll (p :: ps) = Test.and p.holds (holdsAll ps) := by
        funext row
        rw [holdsAll]
        rfl
      rw [hcons, ih, List.map_cons, Test.all]

/-- Some of several predicates answer as their disjunction. -/
theorem holdsAny_any (ps : List Predicate) : holdsAny ps = Test.any (ps.map holds) := by
  induction ps with
  | nil => rfl
  | cons p ps ih =>
      have hcons : holdsAny (p :: ps) = Test.or p.holds (holdsAny ps) := by
        funext row
        rw [holdsAny]
        rfl
      rw [hcons, ih, List.map_cons, Test.any]

/-- A conjunction of predicates answers as its members make it answer. -/
theorem holds_all (ps : List Predicate) : holds (.all ps) = Test.all (ps.map holds) := by
  rw [← holdsAll_all]
  funext row
  rw [holds]

/-- A disjunction of predicates answers as its members make it answer. -/
theorem holds_any (ps : List Predicate) : holds (.any ps) = Test.any (ps.map holds) := by
  rw [← holdsAny_any]
  funext row
  rw [holds]

/-- A negated predicate gives the opposite answer. -/
theorem holds_not (p : Predicate) : holds (.not p) = Test.not p.holds := by
  funext row
  rw [holds]
  rfl

/-- Predicates obey the laws. -/
theorem obeysLaws : ObeysLaws holds .all .any .not :=
  .of_answers holds_all holds_any holds_not

end Predicate

/-! ## Queries -/

namespace Collection

open Repository

/-- The rows that meet a condition, in their order. -/
def passing (t : Test) : List Value → Except Failure (List Value)
  | [] => .ok []
  | row :: rows =>
      match t row with
      | .error failure => .error failure
      | .ok keep =>
          match passing t rows with
          | .error failure => .error failure
          | .ok kept => .ok (if keep then row :: kept else kept)

/-- The matching rows are those that meet the conjunction of the predicates. -/
theorem matching_passing_all (ps : List Predicate) :
    matching ps = passing (.all (ps.map Predicate.holds)) := by
  funext rows
  induction rows with
  | nil => rfl
  | cons row rows ih =>
      rw [matching, Predicate.holdsAll_all, ih]
      rfl

/-- The same rows match several predicates and their conjunction. -/
theorem matching_single (ps : List Predicate) : matching [.all ps] = matching ps := by
  rw [matching_passing_all, matching_passing_all, List.map_singleton, Predicate.holds_all,
    Test.all_single]

/-- A query gives the same for several predicates and for their conjunction. -/
theorem fetchAll_single (entity : String) (q : Query) (ps : List Predicate)
    (w : World Store) :
    (fetchAll ⟨backend, entity⟩ { q with predicates := [.all ps] }).run w =
      (fetchAll ⟨backend, entity⟩ { q with predicates := ps }).run w := by
  have hanswer : answer { q with predicates := [.all ps] } =
      answer { q with predicates := ps } := by
    funext rows
    simp only [answer, matching_single]
  have hrows : (backend.rows { q with predicates := [.all ps] }).run w =
      (backend.rows { q with predicates := ps }).run w := by
    change (fetchRows _).run w = (fetchRows _).run w
    rw [fetchRows_run, fetchRows_run, hanswer]
  simp only [fetchAll, Action.run_bind, hrows]
  rfl

/-- Predicates obey the laws of conjunction, disjunction and negation, failures included,
and so do conditions that answer on rows in any way of their own.  A query with several
predicates gives the same rows as one with their conjunction, or the same failure, and
leaves the same behind; rows are looked through alike for conditions of any kind. -/
theorem predicate_laws :
    ObeysLaws Predicate.holds .all .any .not ∧
    ObeysLaws (fun t : Test => t) .all .any .not ∧
    (∀ (entity : String) (q : Query) (ps : List Predicate) (w : World Store),
      (fetchAll ⟨backend, entity⟩ { q with predicates := [.all ps] }).run w =
        (fetchAll ⟨backend, entity⟩ { q with predicates := ps }).run w) ∧
    (∀ ps : List Predicate, matching ps = passing (.all (ps.map Predicate.holds))) ∧
    ∀ ts : List Test, passing (.all [.all ts]) = passing (.all ts) := by
  refine ⟨Predicate.obeysLaws, ?_, fetchAll_single, matching_passing_all, ?_⟩
  · apply ObeysLaws.of_answers
    · exact fun ts => by rw [List.map_id']
    · exact fun ts => by rw [List.map_id']
    · exact fun _ => rfl
  · exact fun ts => by rw [Test.all_single]

/-- Conjunctions do not commute: behind a member that is not met, no comparison fails. -/
example :
    let row : Value := .mapping [("age", .text "old")]
    let met : Predicate := .compare "age" .eq (.text "young")
    let failing : Predicate := .compare "age" .ge (.int 18)
    (Predicate.all [met, failing]).holds row = .ok false ∧
      (Predicate.all [failing, met]).holds row = .error .mismatch :=
  ⟨rfl, rfl⟩

end Collection

end PagedQuery
