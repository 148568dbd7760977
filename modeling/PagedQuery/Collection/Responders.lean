import PagedQuery.Collection.Store

/-!
# Responders known by name

A text can be given a responder that answers with what is bound to it, counts
that, or gives up.
-/

namespace PagedQuery
namespace Collection
namespace Responder

/-- One row with the values bound by position and by name. -/
def bindings : Responder :=
  .computed fun q => .ok (.list [.tuple [.list q.values, .mapping q.named]])

/-- The values bound by position, as rows. -/
def values : Responder := .computed fun q => .ok (.list q.values)

/-- One row with the number of values bound by position. -/
def count : Responder := .computed fun q => .ok (.list [.tuple [.int q.values.length]])

/-- The number of values bound by position, and ten for each one bound by
name. -/
def affected : Responder :=
  .computed fun q => .ok (.int (q.values.length + 10 * q.named.length))

/-- Always give up with a message. -/
def giveUp (message : String) : Responder := .computed fun _ => .error (.broken message)

/-- The responder with a name. -/
def named? (name message : String) : Option Responder :=
  match name with
  | "echo" => some bindings
  | "values" => some values
  | "count" => some count
  | "affected" => some affected
  | "raise" => some (giveUp message)
  | _ => none

end Responder
end Collection
end PagedQuery
