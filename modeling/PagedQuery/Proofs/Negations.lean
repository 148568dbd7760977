import PagedQuery.Proofs.SharedRows
import PagedQuery.Relational.Directory

/-!
# Negations in lists and in tables

Where the same rows are kept in a list and in a table, the same rows are found but for
those on which the answer is open although evaluation says that the predicate is met.
That takes a negation: evaluation turns a comparison with nothing around, and a database
does not.

Main results:

- Theorem `isMet_eq_yes_iff`: when evaluation and answer agree on a row.
- Theorem `isMet_eq_yes_of_there`: they agree where no compared property is nothing.
- Theorem `find_agrees_iff`: a row is found in both places or in none exactly when its
  answer is there or evaluation does not meet the predicate.
-/

namespace PagedQuery
namespace Relational

open Repository

variable {e : Engine} {entity name id : String} {t : Table} {rows : List Value}

/-! ## One predicate -/

/-- Evaluation meets a predicate exactly where its answer is yes, unless the answer is
open and evaluation meets the predicate all the same. -/
theorem isMet_eq_yes_iff {p : Predicate} {row : Value} {negations : Bool}
    (h : p.Settles negations row) :
    (p.isMet row = true ↔ p.answer row = .yes) ↔
      ¬(p.answer row = .unknown ∧ p.isMet row = true) := by
  obtain ⟨met, hmet, hfits⟩ := h
  rw [Predicate.isMet_of_holds hmet]
  obtain ⟨hyes, hno⟩ := hfits.eq
  cases hanswer : p.answer row with
  | yes => simp [hyes hanswer]
  | no => simp [hno hanswer]
  | unknown => simp

/-- Where a row has all the properties that a predicate compares, evaluation meets the
predicate exactly where its answer is yes. -/
theorem isMet_eq_yes_of_there {p : Predicate} {row : Value} {negations : Bool}
    (h : p.BuiltFrom (Predicate.IsThereOn row) negations) :
    p.isMet row = true ↔ p.answer row = .yes := by
  have hdefined : p.BuiltFrom (Predicate.IsDefinedOn row) negations :=
    h.mono fun _ _ _ hthere => hthere.2
  rw [isMet_eq_yes_iff (Predicate.settles_of_builtFrom hdefined)]
  intro hopen
  exact Predicate.answer_ne_unknown h hopen.1

/-- A row is found in a list and in a table, or in neither of them, exactly when the
predicate has an answer on it or evaluation does not meet the predicate.  This holds for
whatever statement the engine takes; any other one is refused. -/
theorem find_agrees_iff (htyped : t.IsTyped id) (hpresent : t.schema.present = true)
    {p : Predicate} (hp : p.BuiltFrom t.schema.Compares true)
    {m : World Collection.Store} (hkept : KeepsRows name t rows m.store)
    {w : World Database} (hserved : Serves e entity t w.store) :
    ∃ found, ((find ⟨Collection.backend, name⟩ [p]).run m).1 = .ok found ∧
      (¬e.TakesQuery t (plainQuery ⟨backend, entity⟩ [p]) → ∃ fault,
        ((find ⟨backend, entity⟩ [p]).run w).1 = .error (queryFailed entity fault)) ∧
      (e.TakesQuery t (plainQuery ⟨backend, entity⟩ [p]) → ∃ shown records w',
        (find ⟨backend, entity⟩ [p]).run w = (.ok shown, w') ∧
        List.Forall₂ Shows shown records ∧
        ∀ r ∈ t.records, ((r.toMapping ∈ found ↔ r ∈ records) ↔
          ¬(p.answer r.toMapping = .unknown ∧ p.isMet r.toMapping = true))) := by
  have hbuilt : ∀ q ∈ [p], q.BuiltFrom t.schema.Compares true :=
    List.forall_mem_singleton.2 hp
  refine ⟨_, find_list htyped hkept hbuilt, find_table_refused hpresent hbuilt hserved, ?_⟩
  intro htaken
  obtain ⟨shown, records, w', hrun, hperm, hshown⟩ :=
    find_table htyped hpresent hbuilt hserved htaken
  refine ⟨shown, records, w', hrun, hshown, ?_⟩
  intro r hr
  have hkeptrow : r.toMapping ∈ rows :=
    hkept.same.mem_iff.2 (List.mem_map_of_mem hr)
  have hfound : r.toMapping ∈ Predicate.select [p] rows ↔ p.isMet r.toMapping = true := by
    rw [Predicate.select, List.mem_filter, List.all_cons, List.all_nil, Bool.and_true]
    exact and_iff_right hkeptrow
  have hselected : r ∈ records ↔ p.answer r.toMapping = .yes := by
    rw [hperm.mem_iff, matched, List.mem_filter, Predicate.answerAll, Predicate.answerAll,
      beq_iff_eq, isJoin_and.join_neutral]
    exact and_iff_right hr
  rw [hfound, hselected]
  exact isMet_eq_yes_iff (settles_toMapping hp (htyped.typed r hr))

/-! ## A user without an age -/

/-- A user of whom no age is known. -/
def ageless : Record :=
  [("id", .integer 1), ("name", .text "ann"), ("login", .null), ("age", .null),
    ("status", .text "active")]

/-- The table of users with one user, of whom no age is known. -/
def agelessTable : Table := ⟨userSchema, [ageless]⟩

/-- The age is not five. -/
def notFive : Predicate := .not (.compare "age" .eq (.int 5))

/-- The table of the user is typed. -/
theorem agelessTable_isTyped : agelessTable.IsTyped "id" := by
  constructor
  · rw [agelessTable, List.forall_mem_singleton]
    apply Record.isTyped_of_columns
    decide
  · rfl
  · exact ⟨_, rfl⟩
  · rw [agelessTable, List.forall_mem_singleton]
    decide
  · decide

/-- The comparison is one of a column with a value of its kind. -/
theorem notFive_builtFrom : notFive.BuiltFrom userSchema.Compares true :=
  .not rfl (.compare ⟨by decide, _, rfl, 5, rfl, rfl⟩)

/-- The embedded engine takes the statement. -/
theorem takesQuery_notFive :
    Engine.embedded.TakesQuery agelessTable (plainQuery ⟨backend, "User"⟩ [notFive]) :=
  embedded_takesQuery (List.forall_mem_singleton.2 notFive_builtFrom) rfl rfl

/-- A user of whom no age is known is found in the list, but not in the table, when the
age is asked not to be five. -/
theorem find_ageless_differs :
    ((find ⟨Collection.backend, "users"⟩ [notFive]).run
        ⟨{ collections := [("users", [ageless.toMapping])] }, []⟩).1 =
        .ok [ageless.toMapping] ∧
      ((find ⟨backend, "User"⟩ [notFive]).run ⟨{ tables := [agelessTable] }, []⟩).1 =
        .ok [] := by
  constructor
  · rfl
  · have hserved : Serves .embedded "User" agelessTable { tables := [agelessTable] } :=
      ⟨rfl, rfl, rfl, mirrors_of_held_nil rfl⟩
    obtain ⟨shown, records, w', hrun, hperm, hshown⟩ := find_table
      (w := ⟨{ tables := [agelessTable] }, []⟩) agelessTable_isTyped rfl
      (List.forall_mem_singleton.2 notFive_builtFrom) hserved takesQuery_notFive
    have hmatched : matched agelessTable [notFive] = [] := rfl
    rw [hmatched] at hperm
    rw [hperm.eq_nil, List.forall₂_nil_right_iff] at hshown
    rw [hrun, hshown]

/-- The user is found in one place only because the answer is open and evaluation says
that the predicate is met. -/
theorem find_agrees_iff_ageless :
    ∃ found, ((find ⟨Collection.backend, "users"⟩ [notFive]).run
        ⟨{ collections := [("users", [ageless.toMapping])] }, []⟩).1 = .ok found ∧
      ∃ shown records w', (find ⟨backend, "User"⟩ [notFive]).run
        ⟨{ tables := [agelessTable] }, []⟩ = (.ok shown, w') ∧
        List.Forall₂ Shows shown records ∧
        ¬(ageless.toMapping ∈ found ↔ ageless ∈ records) := by
  have hserved : Serves .embedded "User" agelessTable { tables := [agelessTable] } :=
    ⟨rfl, rfl, rfl, mirrors_of_held_nil rfl⟩
  have hkept : KeepsRows "users" agelessTable [ageless.toMapping]
      { collections := [("users", [ageless.toMapping])] } := ⟨rfl, .refl _⟩
  obtain ⟨found, hfound, -, htaken⟩ := find_agrees_iff
    (m := ⟨{ collections := [("users", [ageless.toMapping])] }, []⟩)
    (w := ⟨{ tables := [agelessTable] }, []⟩)
    agelessTable_isTyped rfl notFive_builtFrom hkept hserved
  obtain ⟨shown, records, w', hrun, hshown, hiff⟩ := htaken takesQuery_notFive
  refine ⟨found, hfound, shown, records, w', hrun, hshown, ?_⟩
  rw [hiff ageless List.mem_cons_self]
  exact fun hnot => hnot ⟨rfl, rfl⟩

end Relational
end PagedQuery
