import PagedQuery.Settings.Loading
import PagedQuery.Value.Order

/-!
# Settings of the query layer

The query layer is set up with the address of a database, page sizes, and the
start of the names of filter parameters.
-/

namespace PagedQuery
namespace Settings

/-- A value counts as something: it is not nothing, zero or empty. -/
def isSomething : Value → Bool
  | .null => false
  | .bool b => b
  | .int n => n != 0
  | .double (.finite _ units) => units != 0
  | .text s => s != ""
  | .list items | .tuple items => !items.isEmpty
  | .mapping entries => !entries.isEmpty
  | _ => true

/-- Fail with an invalid value for a setting when a question of order about it is
answered by yes. -/
def refuseIf (name : String) (value : Value) (question : Ordered) (bound : Value)
    (reason : String) : Except Failure Unit :=
  match (value.standing bound).answers? question with
  | none => .error .mismatch
  | some true => .error (.ofKind (.invalidSetting name value reason))
  | some false => .ok ()

/-- What the settings of the query layer must meet, in this order: a positive
default page size, a maximum that is not smaller, and a start of filter
parameters that is not empty. -/
def checkPaging (values : Entries) : Except Failure Unit :=
  let settings := Value.mapping values
  let size := settings.property "default_page_size"
  let greatest := settings.property "max_page_size"
  let start := settings.property "filter_prefix"
  match refuseIf "default_page_size" size .atMost (.int 0) "must be > 0" with
  | .error failure => .error failure
  | .ok () =>
      match refuseIf "max_page_size" greatest .less size "must be >= default_page_size" with
      | .error failure => .error failure
      | .ok () =>
          if isSomething start then .ok ()
          else .error (.ofKind (.invalidSetting "filter_prefix" start "must not be empty"))

/-- The settings of the query layer. -/
def pagingSettings : SettingsClass where
  name := "PersistenceSettings"
  start := some "MP_PERSISTENCE"
  fields := [
    ⟨"database_url", .scalar .string, some (.text "sqlite://"), true⟩,
    ⟨"echo", .scalar .bool, some (.bool false), true⟩,
    ⟨"default_page_size", .scalar .int, some (.int 20), true⟩,
    ⟨"max_page_size", .scalar .int, some (.int 1000), true⟩,
    ⟨"filter_prefix", .scalar .string, some (.text "filter_"), true⟩]
  check := checkPaging

end Settings
end PagedQuery
