import SqlRunner.Connection.Journal
import SqlRunner.Trace

/-!
# Sessions — steps against a database, and what they leave behind

A step changes the world and ends in an answer or a failure; the world it leaves is the same kind of
thing in both cases, so whatever was written down before a failure stays written. `attempt` turns a
failure into an answer, and everything that has to happen on every way out of an operation is built
from it.
-/

set_option autoImplicit false

namespace SqlRunner

/-- Everything outside of the runner: the database's behavior, the journal of its driver, and the
    trace of the runner's own events. -/
structure World where
  behavior : Behavior := {}
  journal : List Entry := []
  trace : Recorder := {}

namespace World

variable (world : World) (b : Behavior)

/-- The world with a database that behaves so from now on. -/
def under : World := { world with behavior := b }

@[simp] theorem under_behavior : (world.under b).behavior = b := rfl

@[simp] theorem under_journal : (world.under b).journal = world.journal := rfl

@[simp] theorem under_trace : (world.under b).trace = world.trace := rfl

end World

/-- A step that may fail. -/
abbrev Session := ExceptT Failure (StateM World)

namespace Session

/-- Ends with a failure. -/
def fail {α : Type} (failure : Failure) : Session α := throw failure

/-- Ends with a failure if there is one. -/
def failIf (failure? : Option Failure) : Session Unit :=
  match failure? with
  | some failure => fail failure
  | none => pure ()

/-- The answer, or the failure that stands in its place. -/
def ofExcept {α : Type} : Except Failure α → Session α
  | .ok value => pure value
  | .error failure => fail failure

/-- The answer, or the fault that stands in its place. -/
def ofFault {α : Type} (result : Except Fault α) : Session α :=
  ofExcept (result.mapError Failure.fault)

/-- How the database behaves. -/
def behavior : Session Behavior := do return (← get).behavior

/-- Writes a call into the journal. -/
def write (entry : Entry) : Session Unit :=
  modify fun w => { w with journal := w.journal ++ [entry] }

/-- Reports an event. -/
def report (name : String) (fields : Fields) : Session Unit :=
  modify fun w => { w with trace := w.trace.record ⟨name, fields⟩ }

/-- The step with its failure as an answer; it never fails itself. -/
def attempt {α : Type} (step : Session α) : Session (Except Failure α) :=
  ExceptT.mk (do return .ok (← step.run))

/-- Closes something on the way out of an operation. A failure to close is reported and goes no
    further. -/
def release (close : Session Unit) : Session Unit := do
  match ← attempt close with
  | .ok () => pure ()
  | .error failure => report "release_failed" [("error", .text failure.message)]

/-- The step, and then the release, whichever way the step ends. -/
def thenRelease {α : Type} (step : Session α) (close : Session Unit) : Session α := do
  let outcome ← attempt step
  release close
  ofExcept outcome

end Session

end SqlRunner
