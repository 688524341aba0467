import SqlRunner.Arguments

/-!
# Traces — what the runner reports about its own work

Operations report events: a name and fields. A recorder keeps them in order, and a recorder that is
switched off drops them. Nothing else depends on a trace.
-/

set_option autoImplicit false

namespace SqlRunner

/-- One reported event. -/
structure Event where
  name : String
  fields : Fields := []

/-- Keeps events in memory, or drops them. -/
structure Recorder where
  keeping : Bool := true
  events : List Event := []

namespace Recorder

/-- The recorder after one more event. -/
def record (r : Recorder) (event : Event) : Recorder :=
  if r.keeping then { r with events := r.events ++ [event] } else r

/-- The name of a recorder's kind. -/
def kindName (r : Recorder) : String :=
  if r.keeping then "RecordingDiagnostics" else "NullDiagnostics"

/-- The recorder after an event was reported from outside, whose fields may clash with the call. -/
def report (r : Recorder) (event : Event) : Except Fault Recorder := do
  event.fields.checkClash (r.kindName ++ ".debug") ["self", "event"]
  return r.record event

/-- The names of the events, in order. -/
def names (r : Recorder) : List String := r.events.map (·.name)

/-- The values under a name, of the events that have it. -/
def values (r : Recorder) (name : String) : List Datum :=
  r.events.filterMap fun e => e.fields.get? name

/-- The recorder with no events. -/
def clear (r : Recorder) : Recorder := { r with events := [] }

end Recorder

end SqlRunner
