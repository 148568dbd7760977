import PagedQuery.Failure
import PagedQuery.Settings.Annotation
import PagedQuery.Text.CaseMap

/-!
# Loading settings from an environment

A class of settings has fields in an order.  Each field is read from the
variable that its name and the start agreed for the class make up; the first
variable that is missing or does not fit decides, and only then the class itself
checks the values.
-/

namespace PagedQuery
namespace Settings

open Text

/-- A field of a class of settings. -/
structure Field where
  name : String
  annotation : Annotation
  default : Option Value
  /-- A value for the field is accepted when settings are made. -/
  accepted : Bool := true

/-- A class of settings. -/
structure SettingsClass where
  name : String
  /-- The start of the names of its variables. -/
  start : Option String
  fields : List Field
  /-- What the class requires of its values. -/
  check : Entries → Except Failure Unit
  /-- How the class words that its requirements are not defined on the kinds of its values. -/
  mismatchWording : Entries → String := fun _ => ""

/-- The variables of an environment. -/
abbrev Environment := List (String × String)

/-- The name of the variable of a field. -/
def variableName (start : Option String) (field : String) : String :=
  let whole := upperText (start.getD "" ++ "_" ++ field)
  .ofList (whole.toList.dropWhile (· == '_'))

/-- An environment with the variables of a file.  Without override, variables
that are set stay as they are. -/
def merged (override : Bool) (environment file : Environment) : Environment :=
  file.foldl (fun all entry =>
    if !override && (environment.lookup entry.1).isSome then all
    else putEntry entry.1 entry.2 all) environment

/-! ## Reading fields -/

/-- The value of a field from its variable, nothing when that is not set. -/
def readField (start : Option String) (environment : Environment) (f : Field) :
    Except Failure (Option Value) :=
  let key := variableName start f.name
  match environment.lookup key, f.default with
  | none, none => .error (.ofKind (.missingSetting key))
  | none, some _ => .ok none
  | some raw, _ =>
      match f.annotation.reading.read raw with
      | .ok value => .ok (some value)
      | .error rejection =>
          .error (.ofKind (.invalidSetting key (.text raw) rejection.message))

/-- The values of the fields that are set, in the order of the fields. -/
def readFields (start : Option String) (environment : Environment) :
    List Field → Except Failure Entries
  | [] => .ok []
  | f :: fs =>
      match readField start environment f with
      | .error failure => .error failure
      | .ok value =>
          match readFields start environment fs with
          | .error failure => .error failure
          | .ok rest =>
              match value with
              | some value => .ok ((f.name, value) :: rest)
              | none => .ok rest

/-! ## Making settings -/

/-- The first given value that no field of the class accepts. -/
def firstRefused (fields : List Field) (given : Entries) : Option String :=
  (given.find? fun entry =>
    !fields.any fun f => f.accepted && f.name == entry.1).map (·.1)

/-- The values of all fields: those given, and defaults for the others. -/
def allValues (fields : List Field) (given : Entries) : Entries :=
  fields.map fun f => (f.name, (given.lookup f.name).getD (f.default.getD .null))

/-- Every field has a value: one is given, or there is a default. -/
def coversFields (fields : List Field) (given : Entries) : Bool :=
  fields.all fun f => f.default.isSome || (given.lookup f.name).isSome

/-! ## Classes of settings -/

/-- The class of a default that all settings would share and could change. -/
def sharedClass? : Value → Option String
  | .mapping _ => some "dict"
  | .object _ _ => some "types.SimpleNamespace"
  | _ => none

/-- No default can be shared by settings and changed in one of them. -/
def checkDefaults : List Field → Except Failure Unit
  | [] => .ok ()
  | f :: fs =>
      match f.default.bind sharedClass? with
      | some kind =>
          .error (.unfit ("mutable default <class '" ++ kind ++ "'> for field " ++ f.name ++
            " is not allowed: use default_factory"))
      | none => checkDefaults fs

/-- No field without a default stands behind one with a default, among those that
accept values. -/
def defaultsLast (fields : List Field) : Bool :=
  ((fields.filter (·.accepted)).dropWhile (·.default.isNone)).all (·.default.isSome)

namespace SettingsClass

/-- A class of settings whose fields can stand together. -/
def declared (c : SettingsClass) : Except Failure SettingsClass :=
  match checkDefaults c.fields with
  | .error failure => .error failure
  | .ok () => if defaultsLast c.fields then .ok c else .error .mismatch

/-- Make settings from given values. -/
def create (c : SettingsClass) (given : Entries) : Except Failure Entries :=
  if (firstRefused c.fields given).isSome || !coversFields c.fields given then
    .error .mismatch
  else
    let values := allValues c.fields given
    match c.check values with
    | .ok () => .ok values
    | .error failure => .error failure

/-- The report of settings that cannot be made of the values that were read. -/
def failedLoad (c : SettingsClass) (wording : String) : Failure :=
  .report (.make .config ("Failed to load " ++ c.name ++ ": " ++ wording) none []
    (some .mismatch))

/-- The report of a value that is set for a field that accepts none. -/
def refusedField (c : SettingsClass) (field : String) : Failure :=
  c.failedLoad (c.name ++ ".__init__() got an unexpected keyword argument '" ++ field ++ "'")

/-- Load settings from an environment. -/
def load (c : SettingsClass) (environment : Environment) : Except Failure Entries :=
  match readFields c.start environment c.fields with
  | .error failure => .error failure
  | .ok given =>
      match firstRefused c.fields given with
      | some field => .error (c.refusedField field)
      | none =>
          match c.create given with
          | .error .mismatch =>
              .error (c.failedLoad (c.mismatchWording (allValues c.fields given)))
          | outcome => outcome

end SettingsClass

/-- The failure of a file that cannot be read for want of the means. -/
def filesUnavailable : Failure :=
  .unavailable "Install 'mp-persistence[dotenv]' to use DotenvSettingsLoader"

end Settings
end PagedQuery
