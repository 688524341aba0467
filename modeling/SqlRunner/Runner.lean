import SqlRunner.Conduct
import SqlRunner.Connection
import SqlRunner.Rendering

/-!
# The runner — statements run over a borrowed connection

Every operation takes the same way: it makes sure that the connection is online, renders the
statement, acquires one handle, acts on it, releases it, and turns whatever went wrong on the way
into an execution error. The way from the handle on is `withHandle`, and it is the only place where
a handle is acquired, so there is one release for each.

What comes before the handle is left as it is: a statement that cannot be rendered is the caller's
mistake and is raised as it is.
-/

set_option autoImplicit false

namespace SqlRunner

/-- Runs statements of a dialect over a connection that belongs to someone else. -/
structure Runner where
  connection : Connection
  dialect : Dialect

namespace Runner

/-- Statements reach a database through this runner. -/
def updatesDatabase : Bool := true

/-- Refuses to go on over an offline connection. -/
def ensureOnline (r : Runner) : Session Unit := do
  if r.connection.isOffline then
    Session.fail (.execution (.connectionUnavailable (some r.connection.url)))

/-- A failure as it leaves an operation that attempted `sql`. -/
def leaving (r : Runner) (sql : List String) (operation : String) (failure : Failure) :
    Failure :=
  .execution (failure.asExecution sql (some r.connection.url) (some operation))

/-- Acquires a handle, acts on it and releases it, on every way out. -/
def withHandle {shape : Shape} {α : Type} (r : Runner) (acquire : Session (Handle shape))
    (sql : List String) (operation : String) (action : HandleStep shape α) : Session α := do
  match ← Session.attempt acquire with
  | .error failure => Session.fail (r.leaving sql operation failure)
  | .ok handle =>
    let (outcome, after) ← handle.perform action
    after.release
    match outcome with
    | .ok value => return value
    | .error failure => Session.fail (r.leaving sql operation failure)

/-- Reports that SQL is about to be run. -/
def announce (event sql : String) : Session Unit := Session.report event [("sql", .text sql)]

/-- The one string of a statement that cannot be run in parts. -/
def renderSingle (r : Runner) (statement : Statement) (visitors : List Visitor)
    (operation : String) : Session String :=
  Session.ofExcept (Rendering.renderSingle r.dialect visitors operation statement)

/-- The strings of a statement. -/
def render (r : Runner) (statement : Statement) (visitors : List Visitor) :
    Session (List String) :=
  Session.ofFault (Rendering.render r.dialect visitors statement)

/-- Runs a statement of one string for its rows. -/
def query (r : Runner) (statement : Statement) (visitors : List Visitor) :
    Session QueryResult := do
  r.ensureOnline
  let sql ← r.renderSingle statement visitors "query"
  match statement with
  | .command (.prepared _ parameters) =>
    r.withHandle (r.connection.prepareStatement sql) [sql] "query" do
      announce "executing_query" sql
      Handle.bind parameters
      (← Handle.queryPrepared).materialize
  | _ =>
    r.withHandle r.connection.createStatement [sql] "query" do
      announce "executing_query" sql
      (← Handle.query sql).materialize

/-- Runs a statement of one string for the count of changed rows. Calls have no such count. -/
def update (r : Runner) (statement : Statement) (visitors : List Visitor) :
    Session UpdateResult := do
  if let .command (.call _ _) := statement then
    Session.fail (.execution (.unsupported
      "Direct update using a callable statement is not implemented" (some "update")))
  r.ensureOnline
  let sql ← r.renderSingle statement visitors "update"
  match statement with
  | .command (.prepared _ parameters) =>
    r.withHandle (r.connection.prepareStatement sql) [sql] "update" do
      announce "executing_update" sql
      Handle.bind parameters
      return .ofReport (← Handle.updatePrepared)
  | _ =>
    r.withHandle r.connection.createStatement [sql] "update" do
      announce "executing_update" sql
      return .ofReport (← Handle.update sql)

/-- Whether SQL holds the marker of the dialect, and so is run with escape processing off. -/
def holdsMarker (r : Runner) (sql : String) : Bool :=
  Text.occursIn r.dialect.placeholder.toList sql.toList

/-- Runs strings one after another on a plain handle, up to the first that fails. -/
def runEach (r : Runner) : List String → HandleStep .plain Unit
  | [] => pure ()
  | sql :: rest => do
    announce "executing_statement" sql
    if r.holdsMarker sql then Handle.setEscapeProcessing false
    Handle.execute sql
    runEach r rest

/-- Runs a template that binds itself, as it is written. -/
def executePrepared (r : Runner) (sql : String) (parameters : List Datum) : Session Unit := do
  announce "executing_prepared" sql
  r.withHandle (r.connection.prepareStatement sql) [sql] "execute" do
    Handle.bind parameters
    Handle.executePrepared

/-- Runs a command. -/
def executeCommand (r : Runner) (visitors : List Visitor) (command : Command) :
    Session Unit := do
  r.ensureOnline
  match command with
  | .prepared sql parameters => r.executePrepared sql parameters
  | _ =>
    let rendered ← r.render (.command command) visitors
    r.withHandle r.connection.createStatement rendered "execute" (r.runEach rendered)

/-- Runs commands one after another, up to the first that fails. -/
def executeAll (r : Runner) (visitors : List Visitor) : List Command → Session Unit
  | [] => pure ()
  | command :: rest => do
    r.executeCommand visitors command
    executeAll r visitors rest

/-- Runs the commands of a statement that may be a change. -/
def executeChange (r : Runner) (statement : Statement) (visitors : List Visitor) :
    Session Unit := do
  r.ensureOnline
  let commands ← Session.ofFault (statement.expand r.dialect.name)
  r.executeAll visitors commands

/-- Runs any statement. -/
def execute (r : Runner) (statement : Statement) (visitors : List Visitor) : Session Unit :=
  match statement with
  | .command command => r.executeCommand visitors command
  | .change _ => r.executeChange statement visitors

/-- Prepares a call and hands its handle over. -/
def executeCallable (r : Runner) (statement : Statement) (conduct : Option Conduct)
    (visitors : List Visitor) : Session Datum := do
  r.ensureOnline
  match ← r.render statement visitors with
  | [] =>
    Session.fail (.execution (.unsupported "Callable statement rendered to no SQL"
      (some "execute_callable")))
  | sql :: rest =>
    r.withHandle (r.connection.prepareCall sql) (sql :: rest) "execute_callable" do
      announce "executing_callable" sql
      Handle.bind statement.parameters
      Handle.handOver conduct

/-- Reports a comment; nothing reaches the database. -/
def comment (message : String) : Session Unit :=
  Session.report "comment" [("message", .text message)]

end Runner

end SqlRunner
