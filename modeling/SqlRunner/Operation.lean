import SqlRunner.Callback
import SqlRunner.Preview
import SqlRunner.Runner

/-!
# Operations — what is asked of a runner, as values

An operation is one call on a runner, or the same call on a preview. Sequences of operations are
performed one after another whatever becomes of each, so a failure shows in its own answer and in
the world it leaves, and nowhere else. From one operation to the next a database may behave
differently, so a `Turn` of a runner has the behavior that is met by its operation.
-/

set_option autoImplicit false

namespace SqlRunner

/-- A call on a runner. A statement that is called may be handed to a caller of some conduct. -/
inductive Operation where
  | query (statement : Statement) (visitors : List Visitor)
  | update (statement : Statement) (visitors : List Visitor)
  | execute (statement : Statement) (visitors : List Visitor)
  | executeChange (statement : Statement) (visitors : List Visitor)
  | call (statement : Statement) (conduct : Option Conduct) (visitors : List Visitor)
  | comment (message : String)

/-- A statement that is called and may be handed to a callback. -/
def Operation.executeCallable (statement : Statement) (callback : Option Callback)
    (visitors : List Visitor) : Operation :=
  call statement (callback.map Callback.conduct) visitors

/-- An operation, and how the database behaves while it is performed. -/
structure Turn where
  operation : Operation
  behavior : Behavior := {}

/-- The answer to an operation. -/
inductive Answer where
  | rows (result : QueryResult)
  | count (result : UpdateResult)
  | value (value : Datum)
  | nothing

namespace Runner

/-- Performs an operation. -/
def perform (r : Runner) : Operation → Session Answer
  | .query statement visitors => do return .rows (← r.query statement visitors)
  | .update statement visitors => do return .count (← r.update statement visitors)
  | .execute statement visitors => do
    r.execute statement visitors
    return .nothing
  | .executeChange statement visitors => do
    r.executeChange statement visitors
    return .nothing
  | .call statement conduct visitors => do
    return .value (← r.executeCallable statement conduct visitors)
  | .comment message => do
    comment message
    return .nothing

/-- Performs operations one after another, each under the behavior of its turn: their answers, and
    the world after them. -/
def performAll (r : Runner) (world : World) : List Turn → List (Except Failure Answer) × World
  | [] => ([], world)
  | turn :: rest =>
    let (answer, after) := (r.perform turn.operation).run (world.under turn.behavior)
    let (answers, last) := performAll r after rest
    (answer :: answers, last)

end Runner

namespace Preview

/-- Performs an operation. There is no handle to be handed to anyone. -/
def perform (p : Preview) : Operation → PreviewStep Answer
  | .query _ _ => do return .rows (← p.query)
  | .update _ _ => do return .count (← p.update)
  | .execute statement visitors | .executeChange statement visitors => do
    p.execute statement visitors
    return .nothing
  | .call statement _ visitors => do
    p.executeCallable statement visitors
    return .nothing
  | .comment message => do
    comment message
    return .nothing

/-- Performs operations one after another: their answers, and the page after them. -/
def performAll (p : Preview) (page : Page) : List Operation → List (Except Failure Answer) × Page
  | [] => ([], page)
  | operation :: rest =>
    let (answer, after) := (p.perform operation).run page
    let (answers, last) := performAll p after rest
    (answer :: answers, last)

end Preview

end SqlRunner
