import SqlRunner.Connection.Handle

/-!
# Conduct — what a caller does with a callable handle

A caller of a procedure may be handed the handle of the call, and may do with it what it likes. It
may look at what every request came to, go on after a failure, and let the answers and what it reads
off the handle decide what to do next. A `Conduct` is such a caller as a tree. At every node it
answers, fails, looks at the handle or makes a request, and for every outcome of the request there
is a conduct from there on. Every way through the tree ends.

The handle is closed by whoever acquired it. A caller may close it too, earlier; `LeavesOpen` tells
the conducts that leave this to the owner.
-/

set_option autoImplicit false

namespace SqlRunner

/-- The step with its failure as an answer. The handle stays as the step left it. -/
def HandleStep.attempt {shape : Shape} {α : Type} (step : HandleStep shape α) :
    HandleStep shape (Except Failure α) :=
  ExceptT.mk (do return .ok (← step.run))

/-- What a caller does with a callable handle, by the outcome of everything it does. -/
inductive Conduct where
  /-- Ends with an answer. -/
  | answer (value : Datum)
  /-- Ends with a failure. -/
  | fail (failure : Failure)
  /-- Looks at the handle. -/
  | look (next : Handle .callable → Conduct)
  /-- Binds parameters in place of those bound before. -/
  | bind (parameters : List Datum) (next : Except Failure Unit → Conduct)
  /-- Makes the call. -/
  | call (next : Except Failure Datum → Conduct)
  /-- Closes the handle. -/
  | close (next : Except Failure Unit → Conduct)

namespace Conduct

/-- The whole conduct. -/
def run : Conduct → HandleStep .callable Datum
  | answer value => return value
  | fail failure => throw failure
  | look next => do (next (← get)).run
  | bind parameters next => do (next (← HandleStep.attempt (Handle.bind parameters))).run
  | call next => do (next (← HandleStep.attempt Handle.call)).run
  | close next => do (next (← HandleStep.attempt Handle.close)).run

/-- Goes on from an answer, and fails with a failure. -/
def onward {α : Type} (next : α → Conduct) : Except Failure α → Conduct
  | .ok value => next value
  | .error failure => fail failure

/-- The handle is left open, whatever the requests come to. -/
def LeavesOpen : Conduct → Prop
  | answer _ | fail _ => True
  | look next => ∀ h, (next h).LeavesOpen
  | bind _ next => ∀ outcome, (next outcome).LeavesOpen
  | call next => ∀ outcome, (next outcome).LeavesOpen
  | close _ => False

theorem leavesOpen_onward {α : Type} {next : α → Conduct} (h : ∀ value, (next value).LeavesOpen)
    (outcome : Except Failure α) : (onward next outcome).LeavesOpen := by
  cases outcome with
  | ok value => exact h value
  | error failure => trivial

end Conduct

/-- Hands the handle to a caller; without one the call is made. -/
def Handle.handOver : Option Conduct → HandleStep .callable Datum
  | some conduct => conduct.run
  | none => call

end SqlRunner
