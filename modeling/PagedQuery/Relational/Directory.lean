import PagedQuery.Relational.Database

/-!
# A directory of users

A small database: users, their membership in groups, an entity whose properties
have short names, and an entity without a table.
-/

namespace PagedQuery
namespace Relational

/-- People with a name, a login, an age and a status. -/
def userSchema : Schema where
  entity := "User"
  columns := [
    { name := "id", kind := .integer },
    { name := "name", kind := .text, required := true },
    { name := "login", kind := .text },
    { name := "age", kind := .integer },
    { name := "status", kind := .text, default := some "active" }]
  key := ["id"]

/-- Which user belongs to which group. -/
def membershipSchema : Schema where
  entity := "Membership"
  columns := [
    { name := "user_id", kind := .integer },
    { name := "group_id", kind := .integer }]
  key := ["user_id", "group_id"]

/-- Keys with a label. -/
def renamedSchema : Schema where
  entity := "Renamed"
  columns := [{ name := "key", kind := .integer }, { name := "label", kind := .text }]
  key := ["key"]

/-- An entity whose table does not exist. -/
def ghostSchema : Schema where
  entity := "Ghost"
  columns := [{ name := "id", kind := .integer }]
  key := ["id"]
  present := false

/-- A table filled with objects; those that cannot be stored are left out. -/
def filledTable (s : Schema) (objects : List Entries) : Table :=
  objects.foldl (fun t values =>
    match insertObject .embedded t values with
    | .ok (t, _) => t
    | .error _ => t) ⟨s, []⟩

/-- The directory with given users and labels, committed. -/
def directory (users renamed : List Entries) (echo : Bool) : Database :=
  Database.commit {
    tables := [filledTable userSchema users, ⟨membershipSchema, []⟩,
      filledTable renamedSchema renamed, ⟨ghostSchema, []⟩]
    echo := echo }

end Relational
end PagedQuery
