import PagedQuery.Value.Json

/-!
# Failures and reports

A call fails either with a report, which is an error of this library with a
code and details for a machine to read, or with a failure that comes from
outside: a value that does not fit, a missing key, an operation that is not
defined on a kind of value, or a refusal of the database engine.  A report may
carry the failure that caused it.
-/

namespace PagedQuery

open Text

/-- What a report is about, with the data that belong to that kind. -/
inductive ReportKind where
  | general
  | parse
  | filterParse (spec token : String)
  | invalidArgument
  | unsupportedQuery (text : String)
  | execution
  | notFound (resource : String) (identifier : Value)
  | config
  | missingSetting (name : String)
  | invalidSetting (name : String) (value : Value) (reason : String)

/-- What a database engine can refuse. -/
inductive EngineFault where
  /-- An expression that cannot be built. -/
  | argument
  /-- A constraint of the stored data. -/
  | integrity
  /-- A request that does not fit the state of the session. -/
  | request
  /-- The database does not have what the statement names. -/
  | operation
  /-- A value of a kind that cannot be sent. -/
  | binding
  /-- A change of a record that is not there any more. -/
  | stale
  /-- A look at an object whose record is not there any more. -/
  | vanished
  /-- Any work after a write that failed, as long as that was not taken back. -/
  | pending
  /-- Any other refusal. -/
  | other
  deriving DecidableEq, Repr

/-- An error of this library, over the failures that may cause it. -/
structure ReportOf (φ : Type) where
  kind : ReportKind
  message : String
  code : String
  detail : Entries
  cause : Option φ

/-- Anything that a call can fail with. -/
inductive Failure where
  | report (r : ReportOf Failure)
  /-- A value that does not fit its purpose, such as text that is no number. -/
  | unfit (message : String)
  /-- A key that is not there. -/
  | missing (key : Value)
  /-- A position that a sequence does not have. -/
  | beyond
  /-- A computation that gave up. -/
  | broken (message : String)
  /-- A feature that is not installed. -/
  | unavailable (message : String)
  /-- An operation that is not defined on this kind of value. -/
  | mismatch
  /-- An attribute that a value does not have or does not let change. -/
  | lacking
  /-- A number too large for its purpose. -/
  | overflow
  | engine (fault : EngineFault)

/-- An error of this library. -/
abbrev Report := ReportOf Failure

namespace ReportKind

/-- The names of a kind and of the kinds it belongs to, the narrowest first. -/
def names : ReportKind → List String
  | general => ["BaseError"]
  | parse => ["ParseError", "BaseError"]
  | filterParse _ _ => ["FilterParseError", "ParseError", "BaseError"]
  | invalidArgument => ["InvalidArgumentError", "BaseError"]
  | unsupportedQuery _ => ["UnsupportedQueryError", "InvalidArgumentError", "BaseError"]
  | execution => ["ExecutionError", "BaseError"]
  | notFound _ _ => ["EntityNotFoundError", "ExecutionError", "BaseError"]
  | config => ["ConfigError", "BaseError"]
  | missingSetting _ => ["MissingRequiredSettingError", "ConfigError", "BaseError"]
  | invalidSetting _ _ _ => ["InvalidSettingValueError", "ConfigError", "BaseError"]

/-- The name of a kind. -/
def name (kind : ReportKind) : String := kind.names.headD ""

/-- The code of a report that is not given another one. -/
def defaultCode : ReportKind → String
  | general => "base_error"
  | parse => "parse_error"
  | filterParse _ _ => "filter_parse_error"
  | invalidArgument => "invalid_argument"
  | unsupportedQuery _ => "unsupported_query"
  | execution => "execution_error"
  | notFound _ _ => "not_found"
  | config => "config_error"
  | missingSetting _ => "missing_required_setting"
  | invalidSetting _ _ _ => "invalid_setting_value"

/-- The details that every report of a kind has. -/
def ownDetail : ReportKind → Entries
  | filterParse spec token => [("filter_spec", .text spec), ("token", .text token)]
  | unsupportedQuery text => [("query_text", .text text)]
  | notFound resource identifier =>
      [("resource", .text resource), ("identifier", identifier)]
  | _ => []

/-- The parts of a report, besides its message, that are not given to one of a
kind. -/
def ownParts : ReportKind → List String
  | unsupportedQuery _ => ["detail"]
  | missingSetting _ | invalidSetting _ _ _ => ["code", "detail", "cause"]
  | _ => []

/-- Bad arguments of a call, unsupported query texts included. -/
def isInvalidArgument : ReportKind → Bool
  | invalidArgument | unsupportedQuery _ => true
  | _ => false

/-- The message of the kinds that word it themselves. -/
def ownMessage : ReportKind → String
  | notFound resource .null => resource ++ " not found"
  | notFound resource identifier => resource ++ " '" ++ identifier.plain ++ "' not found"
  | missingSetting name => "Required setting '" ++ name ++ "' is missing"
  | invalidSetting name value reason =>
      "Setting '" ++ name ++ "' has invalid value " ++ value.shown ++ ": " ++ reason
  | _ => ""

end ReportKind

namespace ReportOf

/-- A report with all its parts.  An empty code counts as none; further details
replace those of the kind in place or follow them. -/
def make (kind : ReportKind) (message : String) (code : Option String)
    (detail : Entries) (cause : Option Failure) : Report where
  kind := kind
  message := message
  code :=
    match code with
    | some "" | none => kind.defaultCode
    | some code => code
  detail := putEntries kind.ownDetail detail
  cause := cause

end ReportOf

namespace Failure

/-- A report of a kind that words its message itself. -/
def ofKind (kind : ReportKind) : Failure :=
  report (.make kind kind.ownMessage none [] none)

/-- A bad argument. -/
def invalidArgument (message : String) (detail : Entries) : Failure :=
  report (.make .invalidArgument message none detail none)

/-- A query text that cannot be handled. -/
def unsupportedQuery (message text : String) : Failure :=
  report (.make (.unsupportedQuery text) message none [] none)

/-- A failed execution. -/
def execution (message : String) (detail : Entries) (cause : Option Failure) : Failure :=
  report (.make .execution message none detail cause)

/-- The failure is a report of a bad argument. -/
def isInvalidArgument : Failure → Bool
  | report r => r.kind.isInvalidArgument
  | _ => false

/-- A failure as it is shown inside a message. -/
def shown : Failure → String
  | report r =>
      r.kind.name ++ "(code=" ++ quoted r.code ++ ", message=" ++ quoted r.message ++ ")"
  | unfit message => "ValueError(" ++ quoted message ++ ")"
  | missing key => "KeyError(" ++ key.shown ++ ")"
  | beyond => "IndexError"
  | broken message => "RuntimeError(" ++ quoted message ++ ")"
  | unavailable message => "ImportError(" ++ quoted message ++ ")"
  | mismatch => "TypeError"
  | lacking => "AttributeError"
  | overflow => "OverflowError"
  | engine .argument => "ArgumentError"
  | engine .integrity => "IntegrityError"
  | engine .request => "InvalidRequestError"
  | engine .operation => "OperationalError"
  | engine .binding => "ProgrammingError"
  | engine .stale => "StaleDataError"
  | engine .vanished => "ObjectDeletedError"
  | engine .pending => "PendingRollbackError"
  | engine .other => "EngineError"

end Failure

namespace ReportOf

/-- A report as a mapping: code, message, details, and what caused it. -/
def toMapping (r : Report) : Entries :=
  [("code", .text r.code), ("message", .text r.message), ("detail", .mapping r.detail)] ++
    (match r.cause with
      | some cause => [("cause", .text cause.shown)]
      | none => [])

/-- A report as JSON text. -/
def json (r : Report) : String := (Value.mapping r.toMapping).json

end ReportOf

end PagedQuery
