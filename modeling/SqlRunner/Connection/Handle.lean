import SqlRunner.CallTarget
import SqlRunner.Result
import SqlRunner.Session

/-!
# Handles — what SQL is run through, and the cursors it gives

A handle is plain, prepared or callable, and its type says which, so that only prepared and callable
handles can be bound and only plain ones are given SQL to run. Behind a handle is either a scripted
connection, which writes every call down as it is, or a raw cursor of a driver. On a raw cursor:

* a prepared handle hands its SQL over with the markers respelled, and always with arguments, be
  they none;
* a callable handle calls the procedure by name where the driver can and the call is nothing but
  markers, and runs the respelled text otherwise;
* closing is done once, however often it is asked for, and the cursors that a handle gives do not
  close the raw one.

An operation may change the handle. Like the world, the changed handle is kept when it fails.
-/

set_option autoImplicit false

namespace SqlRunner

/-- The three kinds of handles. -/
inductive Shape where
  | plain
  | prepared
  | callable
deriving DecidableEq, Repr

/-- The resource that a handle of a kind is. -/
def Shape.resource : Shape → Resource
  | plain => .statement
  | prepared => .prepared
  | callable => .callable

/-- What is behind a handle. -/
inductive Backing where
  | scripted
  /-- A raw cursor, its driver's markers, and the count it reports. -/
  | cursor (style : MarkerStyle) (rowCount : Option Int)

/-- A handle of a kind. -/
structure Handle (shape : Shape) where
  backing : Backing
  sql : String := ""
  parameters : List Datum := []
  escapeProcessing : Bool := true
  closed : Bool := false

/-- A step on a handle. -/
abbrev HandleStep (shape : Shape) := ExceptT Failure (StateT (Handle shape) (StateM World))

/-- A step of a session, taken while a handle is held. -/
def HandleStep.ofSession {shape : Shape} {α : Type} (step : Session α) : HandleStep shape α :=
  ExceptT.mk fun handle world =>
    let (outcome, after) := step.run world
    ((outcome, handle), after)

/-- Steps of a session are taken inside steps on a handle. The priority is low so that the state of
    a step on a handle is the handle. -/
instance (priority := low) {shape : Shape} : MonadLift Session (HandleStep shape) :=
  ⟨HandleStep.ofSession⟩

/-- A cursor that a handle gave. -/
inductive Cursor where
  | scripted
  /-- A view of the raw cursor, with the count it reports. -/
  | view (rowCount : Option Int)

namespace Cursor

/-- The labels of the columns, if the driver describes them. -/
def description (_ : Cursor) : Session (Option (List Datum)) := do
  return (← Session.behavior).columns

/-- All rows. -/
def fetchAll (_ : Cursor) : Session (List (List Datum)) := do
  let b ← Session.behavior
  Session.failIf b.fetchFailure?
  return b.rows

/-- Closes the cursor. A view leaves the raw cursor to its handle. -/
def close : Cursor → Session Unit
  | scripted => do
    Session.write (.closed .cursor)
    Session.failIf ((← Session.behavior).closeFailure? .cursor)
  | view _ => pure ()

/-- The result read in full; the cursor is closed on every way out. -/
def materialize (cursor : Cursor) : Session QueryResult :=
  Session.thenRelease
    (do
      let description ← cursor.description
      let rows ← cursor.fetchAll
      Session.ofFault (QueryResult.ofCursor description rows))
    cursor.close

end Cursor

namespace Handle

/-- Refuses SQL that the driver refuses. -/
def checkSql (sql : String) : Session Unit := do
  Session.failIf ((← Session.behavior).refusal? sql)

/-- The cursor that a handle's queries give. -/
def cursorOf : Backing → Cursor
  | .scripted => .scripted
  | .cursor _ rowCount => .view rowCount

/-- The count that a handle's writes report. -/
def countOf : Backing → Session (Option Int)
  | .scripted => do return (← Session.behavior).updateCount
  | .cursor _ rowCount => return rowCount

/-- Runs SQL through a plain handle. -/
def runPlain (verb : Verb) (sql : String) : HandleStep .plain Unit := do
  checkSql sql
  match (← get).backing with
  | .scripted => Session.write (.ran verb sql)
  | .cursor _ _ => Session.write (.cursorRan sql none)

/-- Runs SQL for its effect. -/
def execute (sql : String) : HandleStep .plain Unit := runPlain .execute sql

/-- Runs SQL for its rows. -/
def query (sql : String) : HandleStep .plain Cursor := do
  runPlain .query sql
  return cursorOf (← get).backing

/-- Runs SQL for the count of changed rows. -/
def update (sql : String) : HandleStep .plain (Option Int) := do
  runPlain .update sql
  countOf (← get).backing

/-- Switches the escape mode. A raw cursor is only told where its driver knows the mode. -/
def setEscapeProcessing (enabled : Bool) : HandleStep .plain Unit := do
  modify fun h => { h with escapeProcessing := enabled }
  match (← get).backing with
  | .scripted => Session.write (.escapes enabled)
  | .cursor _ _ =>
    if (← (Session.behavior : Session Behavior)).takesEscapes then
      Session.write (.cursorEscapes enabled)

/-- Binds parameters, in place of those bound before. -/
def bind {shape : Shape} (parameters : List Datum) : HandleStep shape Unit := do
  modify fun h => { h with parameters := parameters }
  match (← get).backing with
  | .scripted =>
    Session.failIf ((← (Session.behavior : Session Behavior)).bindFailure?)
    Session.write (.bound parameters)
  | .cursor _ _ => pure ()

/-- Runs the template of a prepared handle with its parameters. -/
def runPrepared (verb : Verb) : HandleStep .prepared Unit := do
  let h ← get
  checkSql h.sql
  match h.backing with
  | .scripted => Session.write (.ranPrepared verb h.sql h.parameters)
  | .cursor style _ => Session.write (.cursorRan h.sql (some (Marker.bind h.parameters style)))

/-- Runs the template for its effect. -/
def executePrepared : HandleStep .prepared Unit := runPrepared .execute

/-- Runs the template for its rows. -/
def queryPrepared : HandleStep .prepared Cursor := do
  runPrepared .query
  return cursorOf (← get).backing

/-- Runs the template for the count of changed rows. -/
def updatePrepared : HandleStep .prepared (Option Int) := do
  runPrepared .update
  countOf (← get).backing

/-- Makes the call of a callable handle and gives what the driver hands back. -/
def call : HandleStep .callable Datum := do
  let h ← get
  match h.backing with
  | .scripted =>
    checkSql h.sql
    Session.write (.called h.sql h.parameters)
    return .list (.text "out" :: h.parameters)
  | .cursor style _ =>
    let byName := (← (Session.behavior : Session Behavior)).callsByName
    match (if byName then CallTarget.target? h.sql h.parameters.length else none) with
    | some name =>
      checkSql name
      Session.write (.cursorCalled name h.parameters)
      return .list h.parameters
    | none =>
      let sql ← (Session.ofFault (Marker.respell h.sql style) : Session String)
      checkSql sql
      Session.write (.cursorRan sql (some (Marker.bind h.parameters style)))
      return .cursor .raw

/-- Closes the handle. A raw cursor is closed by the first call alone. -/
def close {shape : Shape} : HandleStep shape Unit := do
  let h ← get
  modify fun h => { h with closed := true }
  match h.backing with
  | .scripted =>
    Session.write (.closed shape.resource)
    Session.failIf ((← (Session.behavior : Session Behavior)).closeFailure? shape.resource)
  | .cursor _ _ =>
    if !h.closed then
      Session.write (.closed .cursor)
      Session.failIf ((← (Session.behavior : Session Behavior)).closeFailure? .cursor)

/-- A step on a handle as a step of the session: its outcome and the handle after it. -/
def perform {shape : Shape} {α : Type} (handle : Handle shape) (step : HandleStep shape α) :
    Session (Except Failure α × Handle shape) :=
  ExceptT.mk fun world =>
    let ((outcome, after), world) := step.run.run handle world
    (.ok (outcome, after), world)

/-- Releases the handle. -/
def release {shape : Shape} (handle : Handle shape) : Session Unit :=
  Session.release do
    let (outcome, _) ← handle.perform close
    Session.ofExcept outcome

end Handle

end SqlRunner
