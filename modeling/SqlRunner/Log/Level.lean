import SqlRunner.Fault
import SqlRunner.Text.CaseMap

/-!
# Levels — how much a log tells

A log has a threshold, and an event below it is not written. Levels have names; two of them have a
second one, and the lowest is only a threshold, that of a log that tells everything.
-/

set_option autoImplicit false

namespace SqlRunner

/-- How important an event is. -/
inductive Level where
  | everything
  | debug
  | info
  | warning
  | error
  | critical
deriving DecidableEq, Repr

namespace Level

/-- The rank of a level; more important events rank higher. -/
def rank : Level → Nat
  | everything => 0
  | debug => 10
  | info => 20
  | warning => 30
  | error => 40
  | critical => 50

/-- The name of a level as a log line has it. -/
def name : Level → String
  | everything => "notset"
  | debug => "debug"
  | info => "info"
  | warning => "warning"
  | error => "error"
  | critical => "critical"

/-- The names of levels that settings take, sorted. -/
def settingNames : List (String × Level) :=
  [("CRITICAL", critical), ("DEBUG", debug), ("ERROR", error), ("INFO", info),
    ("WARNING", warning)]

/-- The names of levels that a log takes beside these. -/
def otherNames : List (String × Level) :=
  [("FATAL", critical), ("NOTSET", everything), ("WARN", warning)]

/-- The name of a level in settings; the lowest has none. -/
def settingName (level : Level) : String :=
  ((settingNames.find? fun e => e.2 == level).map (·.1)).getD ""

/-- The level that a name means to a log, in any case. -/
def ofText (text : String) : Except Fault Level :=
  match (settingNames ++ otherNames).lookup (Text.upper text) with
  | some level => .ok level
  | none => .error (.unknownLogLevel (Text.upper text))

end Level

end SqlRunner
