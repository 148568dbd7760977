import PagedQuery.Failure

/-!
# Journal

Calls leave events in a journal.  A logger is given events under the names of
levels.  It adds the fields it was made with to each event, and an event's own
fields take precedence over them.  Events can be captured as they are, or written
as lines for a machine to read when they are not below a level.

Main results:

- Theorem `ofGiven_name`: an event has the name and the level that it was given
  under.
-/

namespace PagedQuery
namespace Journal

/-- How much an event matters. -/
inductive Level where
  | notset
  | debug
  | info
  | warning
  | error
  | critical
  deriving DecidableEq, Repr

namespace Level

/-- The written name of a level. -/
def name : Level → String
  | notset => "notset"
  | debug => "debug"
  | info => "info"
  | warning => "warning"
  | error => "error"
  | critical => "critical"

/-- The number of a level. -/
def number : Level → Int
  | notset => 0
  | debug => 10
  | info => 20
  | warning => 30
  | error => 40
  | critical => 50

/-- The level with a written name. -/
def ofName? (name : String) : Option Level :=
  [debug, info, warning, error, critical].find? (·.name == name)

/-- The number of a level that a logger is set to, by its number or by one of its
names in capitals. -/
def setting : Value → Except Failure Int
  | .int n => .ok n
  | .bool b => .ok (if b then 1 else 0)
  | .text "NOTSET" => .ok notset.number
  | .text "DEBUG" => .ok debug.number
  | .text "INFO" => .ok info.number
  | .text "WARN" | .text "WARNING" => .ok warning.number
  | .text "ERROR" => .ok error.number
  | .text "FATAL" | .text "CRITICAL" => .ok critical.number
  | .text name => .error (.unfit ("Unknown level: " ++ Text.quoted name))
  | _ => .error .mismatch

end Level

/-- Something that happened, with its data. -/
structure Event where
  level : Level
  name : String
  fields : Entries := []

/-- An event with further fields; its own fields take precedence. -/
def Event.under (initial : Entries) (e : Event) : Event :=
  { e with fields := putEntries initial e.fields }

/-- A captured event as fields. -/
def Event.captured (e : Event) : Entries :=
  putEntries e.fields [("event", .text e.name), ("log_level", .text e.level.name)]

/-! ## Loggers -/

/-- A logger that events are given to. -/
inductive Source where
  /-- It writes events with their fields as lines. -/
  | fields
  /-- It passes texts on to be written. -/
  | plain
  /-- It captures events with their fields. -/
  | captured
  deriving DecidableEq, Repr

/-- The level of the events that a logger is given under a name. -/
def Source.level? (source : Source) (name : String) : Option Level :=
  match name, source with
  | "warn", _ => some .warning
  | "fatal", _ => some .critical
  | "exception", _ => some .error
  | "msg", captured => some .info
  | "notset", captured => some .notset
  | name, _ => Level.ofName? name

/-- The fields of an event that tells of the error at hand, when there is none. -/
def Source.traced (source : Source) (fields : Entries) : Entries :=
  match source, fields.lookup "exc_info" with
  | plain, _ => [("exc_info", .list [.null, .null, .null])]
  | _, some _ => fields
  | _, none => fields ++ [("exc_info", .bool true)]

/-- The names of fields that an event cannot have. -/
def eventNames : List String := ["event", "self", "method_name"]

/-- The names of fields that a logger cannot be made with. -/
def loggerNames : List String := ["name", "self"]

/-- Fields must have other names than some given ones. -/
def checkFields (names : List String) (fields : Entries) : Except Failure Unit :=
  if fields.any fun entry => names.contains entry.1 then .error .mismatch else .ok ()

/-- The event that a logger is given under the name of a level.  A logger that only
passes texts on is given no fields. -/
def Event.ofGiven (source : Source) (level name : String) (fields : Entries) :
    Except Failure Event :=
  match source.level? level with
  | none => .error .lacking
  | some found =>
      let fields := if source == .plain then [] else fields
      match checkFields eventNames fields with
      | .error failure => .error failure
      | .ok () =>
          .ok ⟨found, name, if level == "exception" then source.traced fields else fields⟩

/-! ## Lines -/

mutual
/-- A field as it can be read back from a line: sequences alike, and what has no
written form of its own by its description. -/
def written : Value → Value
  | .list items | .tuple items => .list (writtenItems items)
  | .mapping entries => .mapping (writtenEntries entries)
  | .date d => .text (Value.date d).shown
  | .object attributes _ => .text (Value.object attributes).shown
  | value => value

/-- The items of a written sequence. -/
def writtenItems : List Value → List Value
  | [] => []
  | item :: items => written item :: writtenItems items

/-- The entries of a written mapping. -/
def writtenEntries : Entries → Entries
  | [] => []
  | (name, value) :: entries => (name, written value) :: writtenEntries entries
end

/-- What all lines of a logger have in common. -/
structure LineFormat where
  /-- Events with a smaller level number are dropped. -/
  level : Int
  logger : String
  /-- Fields of the surroundings, which every other field takes precedence
  over. -/
  context : Entries
  /-- Fields of the logger. -/
  initial : Entries

/-- The names of fields that are not written. -/
def hiddenNames : List String := ["_record", "_from_structlog", "stack_info"]

/-- The fields of the line of an event, if it is written; the time apart. -/
def LineFormat.line? (f : LineFormat) (source : Source) (e : Event) : Option Entries :=
  if e.level.number < f.level then none
  else
    match source with
    | .plain => some (("event", .text e.name) :: e.fields)
    | _ =>
        let all := putEntries (putEntries f.context f.initial) e.fields
        let shown := all.filter fun entry => !hiddenNames.contains entry.1
        some (writtenEntries (putEntries shown
          [("event", .text e.name), ("logger", .text f.logger),
            ("level", .text e.level.name)]))

theorem ofGiven_name {source : Source} {level name : String} {fields : Entries} {e : Event}
    (h : Event.ofGiven source level name fields = .ok e) :
    e.name = name ∧ source.level? level = some e.level := by
  unfold Event.ofGiven at h
  split at h
  · simp at h
  · rename_i found hfound
    simp only at h
    split at h
    · simp at h
    · simp only [Except.ok.injEq] at h
      exact h ▸ ⟨rfl, hfound⟩

end Journal
end PagedQuery
