import SqlRunner.Fields
import SqlRunner.Log.Level
import SqlRunner.Trace

/-!
# Logs — events as lines of fields

A log line is made in stages, each of which sees what the one before it left: the fields that are
bound to the logger and those of the event, the event itself, the time, the level, the logger's
name, and the name of the service unless the line has one. Later stages write over earlier ones, so
an event cannot pretend to another level or time. In lines that are written as JSON the time and the
level finally take the names by which search engines know them.

Only logs that are written as JSON are modelled line by line; what a console shows is for people.
-/

set_option autoImplicit false

namespace SqlRunner

/-- How a log is set up. -/
structure LogSetup where
  /-- Events that rank below are not written. -/
  threshold : Level := .info
  /-- Whether lines are written as JSON. -/
  json : Bool := true
  service : String := "sqlgate"
  /-- Whether lines are stamped with the time. -/
  stamps : Bool := true

namespace LogSetup

/-- Whether lines are written as JSON when that is left open: unless people watch. -/
def jsonByDefault (json? : Option Bool) (terminal : Bool) : Bool := json?.getD (!terminal)

end LogSetup

/-- A logger: its name, and the fields bound to it. -/
structure Logger where
  name : String
  bound : Fields := []

namespace Logger

/-- The logger of a name; without a name it is the one above all others. -/
def ofName (name : String) : Logger where
  name := if name.isEmpty then "root" else name

/-- The logger of the runner's own events. -/
def ofRunner (bound : Fields) : Logger where
  name := "sqlgate.executor"
  bound := bound

/-- The logger that a trace is forwarded to: that of the runner, unless another is named. -/
def ofTrace (name : Option String) (bound : Fields) : Except Fault Logger := do
  bound.checkClash "StructlogDiagnostics.__init__" ["self", "logger"]
  match name with
  | some n => return { ofName n with bound := bound }
  | none => return ofRunner bound

end Logger

/-- The ways to log an event. -/
inductive LogMethod where
  | plain (level : Level)
  /-- At the level of errors, with a note that an exception is at hand. -/
  | exception
deriving DecidableEq, Repr

namespace LogMethod

/-- The methods by name; some have two. -/
def table : List (String × LogMethod) :=
  [("debug", plain .debug), ("info", plain .info), ("msg", plain .info),
    ("warning", plain .warning), ("warn", plain .warning), ("error", plain .error),
    ("exception", exception), ("critical", plain .critical), ("fatal", plain .critical)]

/-- The method of a name. -/
def ofName? (name : String) : Option LogMethod := table.lookup name

/-- The level of the events of a method. -/
def level : LogMethod → Level
  | plain level => level
  | exception => .error

end LogMethod

namespace Log

mutual

/-- A value as a line holds it: what JSON cannot hold is written out. -/
def lineValue : Datum → Datum
  | .list items => .list (lineItems items)
  | .record entries => .record (lineEntries entries)
  | .binary kind data => .text (Datum.binary kind data).written
  | d => d

/-- The items of a list as a line holds them. -/
def lineItems : List Datum → List Datum
  | [] => []
  | d :: rest => lineValue d :: lineItems rest

/-- The entries of a record as a line holds them. -/
def lineEntries : List (String × Datum) → List (String × Datum)
  | [] => []
  | (name, d) :: rest => (name, lineValue d) :: lineEntries rest

end

/-- The fields with the name of the service, unless they have one. -/
def addService (service : String) (fields : Fields) : Fields :=
  match fields.get? "service.name" with
  | some _ => fields
  | none => fields.put "service.name" (.text service)

/-- The fields with one of them under another name, in place of what was there. -/
def rename (fields : Fields) (name new : String) : Fields :=
  match fields.get? name with
  | some value => (fields.remove name).put new value
  | none => fields

/-- The fields with the time and the level under the names that search engines know. -/
def renameForSearch (fields : Fields) : Fields :=
  rename (rename fields "timestamp" "@timestamp") "level" "log.level"

/-- The fields of a logger and of an event, with the event's name. A request for the stack is none
    of them. -/
def eventFields (logger : Logger) (method : LogMethod) (event : Event) : Fields :=
  let given := (logger.bound.merge event.fields).remove "stack_info"
  let noted :=
    match method, given.get? "exc_info" with
    | .exception, none => given.put "exc_info" (.bool true)
    | _, _ => given
  noted.put "event" (.text event.name)

/-- The line of an event that happened at a time. -/
def line (setup : LogSetup) (now : String) (logger : Logger) (method : LogMethod)
    (event : Event) : Fields :=
  let fields := eventFields logger method event
  let stamped := if setup.stamps then fields.put "timestamp" (.text now) else fields
  let ranked := (stamped.put "level" (.text method.level.name)).put "logger" (.text logger.name)
  let complete := addService setup.service ranked
  lineEntries (if setup.json then renameForSearch complete else complete)

/-- The line that a log writes for an event, if it writes one. -/
def line? (setup : LogSetup) (now : String) (logger : Logger) (method : LogMethod)
    (event : Event) : Option Fields :=
  if setup.threshold.rank ≤ method.level.rank then some (line setup now logger method event)
  else none

/-- The name of the call that logs an event by a method, which depends on whether it is heard. -/
def callName (method : LogMethod) (heard : Bool) : String :=
  match method with
  | .exception => "exception"
  | .plain _ =>
    if heard then "_make_filtering_bound_logger.<locals>.make_method.<locals>.meth" else "_nop"

/-- What a call to log an event writes, if it writes a line. Fields may clash with the call, and, of
    an event that is heard, with the call that hands it on. -/
def call (setup : LogSetup) (now : String) (logger : Logger) (method : LogMethod)
    (event : Event) : Except Fault (Option Fields) := do
  let written := line? setup now logger method event
  event.fields.checkClash (callName method written.isSome) ["self", "event"]
  if written.isSome then
    event.fields.checkClash "BoundLoggerBase._proxy_to_logger" ["method_name"]
  return written

/-- What a log writes for an event of a trace that is forwarded to a logger. -/
def forward (setup : LogSetup) (now : String) (logger : Logger) (event : Event) :
    Except Fault (Option Fields) := do
  event.fields.checkClash "StructlogDiagnostics.debug" ["self", "event"]
  call setup now logger (.plain .debug) event

end Log

end SqlRunner
