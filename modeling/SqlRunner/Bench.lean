import SqlRunner.Connection

/-!
# Benches — handles and cursors held by name

The runner never keeps a handle beyond an operation. Other clients of a connection do: they hold
handles and cursors under names and ask things of them one at a time. A bench is such a client. What
may be asked depends on what is held; anything else is a member that is missing. An answer may be
held under a name too, even one of which nothing can be asked.

A prepared handle may be handed out with a release of its own. Such a handle passes everything on to
the one it wraps, except that closing goes through the release, which counts itself and then closes
the wrapped handle. Unlike the runner's own release it lets a failure to close pass.
-/

set_option autoImplicit false

namespace SqlRunner

/-- What is held under a name. -/
inductive Held where
  | plain (handle : Handle .plain)
  | prepared (handle : Handle .prepared)
  /-- A prepared handle with a release of its own. -/
  | releasing (handle : Handle .prepared)
  | callable (handle : Handle .callable)
  | cursor (cursor : Cursor)
  /-- An answer that is a value, among them the raw cursor of a driver. -/
  | data (value : Datum)

/-- What is asked of something held. -/
inductive Request where
  | property (name : String)
  | bind (parameters : List Datum)
  /-- Only plain handles run the SQL that is given here; the others have their own. -/
  | run (verb : Verb) (sql : String)
  | setEscapeProcessing (enabled : Bool)
  | fetchAll
  | close

/-- What is answered. -/
inductive Reply where
  | data (value : Datum)
  | cursor (cursor : Cursor)

namespace Request

/-- The name by which a request is made. -/
def name : Request → String
  | property name => name
  | bind _ => "bind"
  | run .execute _ => "execute"
  | run .query _ => "execute_query"
  | run .update _ => "execute_update"
  | setEscapeProcessing _ => "set_escape_processing"
  | fetchAll => "fetchall"
  | close => "close"

end Request

namespace Reply

/-- No answer. -/
def nothing : Reply := data .null

/-- A count, if there is one. -/
def count (count? : Option Int) : Reply :=
  match count? with
  | some n => data (.int n)
  | none => nothing

/-- Rows of values. -/
def rows (rows : List (List Datum)) : Reply := data (.list (rows.map Datum.list))

/-- A description of columns: a label and six facts that are not known for each. -/
def description (labels? : Option (List Datum)) : Reply :=
  match labels? with
  | some labels => rows (labels.map fun label => label :: List.replicate 6 .null)
  | none => nothing

end Reply

namespace Held

/-- The kind of what is held, as messages name it. -/
def kindName : Held → String
  | plain _ => "DbapiStatement"
  | prepared _ => "DbapiPreparedStatement"
  | releasing _ => "_ReleasingHandle"
  | callable _ => "DbapiCallableStatement"
  | cursor (.view _) => "_HandleCursor"
  | cursor .scripted => "FakeCursor"
  | data value => value.kindName

/-- An answer as something held. -/
def ofReply : Reply → Held
  | .data value => data value
  | .cursor c => cursor c

/-- What is held asked for something that it does not have. -/
def refuse (held : Held) (request : Request) : Except Failure Reply :=
  .error (.fault (.missingMember held.kindName request.name))

/-- What a plain handle answers. -/
def askPlain (request : Request) : HandleStep .plain (Option Reply) := do
  match request with
  | .property "escape_processing" => return some (.data (.bool (← get).escapeProcessing))
  | .property "closed" => return some (.data (.bool (← get).closed))
  | .run .execute sql =>
    Handle.execute sql
    return some .nothing
  | .run .query sql => return some (.cursor (← Handle.query sql))
  | .run .update sql => return some (.count (← Handle.update sql))
  | .setEscapeProcessing enabled =>
    Handle.setEscapeProcessing enabled
    return some .nothing
  | .close =>
    Handle.close
    return some .nothing
  | .property _ | .bind _ | .fetchAll => return none

/-- What a prepared handle answers to what it can be asked through a release too. -/
def askTemplate (request : Request) : HandleStep .prepared (Option Reply) := do
  match request with
  | .bind parameters =>
    Handle.bind parameters
    return some .nothing
  | .run .execute _ =>
    Handle.executePrepared
    return some .nothing
  | .run .query _ => return some (.cursor (← Handle.queryPrepared))
  | .run .update _ => return some (.count (← Handle.updatePrepared))
  | .close =>
    Handle.close
    return some .nothing
  | .property _ | .setEscapeProcessing _ | .fetchAll => return none

/-- A property of a prepared or callable handle. -/
def propertyOf {shape : Shape} (handle : Handle shape) (name : String) : Option Reply :=
  match name with
  | "sql" => some (.data (.text handle.sql))
  | "parameters" => some (.data (.list handle.parameters))
  | "closed" => some (.data (.bool handle.closed))
  | _ => none

/-- What a prepared handle answers. -/
def askPrepared (request : Request) : HandleStep .prepared (Option Reply) := do
  match request with
  | .property name => return propertyOf (← get) name
  | _ => askTemplate request

/-- What a callable handle answers. -/
def askCallable (request : Request) : HandleStep .callable (Option Reply) := do
  match request with
  | .property name => return propertyOf (← get) name
  | .bind parameters =>
    Handle.bind parameters
    return some .nothing
  | .run .execute _ => return some (.data (← Handle.call))
  | .close =>
    Handle.close
    return some .nothing
  | .run .query _ | .run .update _ | .setEscapeProcessing _ | .fetchAll => return none

/-- What a cursor answers. -/
def askCursor (c : Cursor) (request : Request) : Session (Option Reply) := do
  match c, request with
  | _, .property "description" => return some (.description (← c.description))
  | .view rowCount, .property "rowcount" => return some (.count rowCount)
  | _, .fetchAll => return some (.rows (← c.fetchAll))
  | _, .close =>
    c.close
    return some .nothing
  | _, _ => return none

/-- What the raw cursor of a driver answers. -/
def askRawCursor (request : Request) : Session (Option Reply) := do
  match request with
  | .property "description" => return some (.description (← Session.behavior).columns)
  | .property "rowcount" => return some (.count (← Session.behavior).rowCount)
  | .run .execute sql =>
    Handle.checkSql sql
    Session.write (.cursorRan sql none)
    return some .nothing
  | .fetchAll => return some (.rows (← Cursor.fetchAll (.view none)))
  | .close =>
    Session.write (.closed .cursor)
    Session.failIf ((← Session.behavior).closeFailure? .cursor)
    return some .nothing
  | _ => return none

/-- What a value answers. -/
def askData (request : Request) : Datum → Session (Option Reply)
  | .cursor .raw => askRawCursor request
  | _ => return none

/-- A request to something that requests leave as it is. -/
def askUnchanged (held : Held) (request : Request) (step : Session (Option Reply)) :
    Session (Except Failure Reply × Held) := do
  match ← Session.attempt step with
  | .ok (some reply) => return (.ok reply, held)
  | .ok none => return (held.refuse request, held)
  | .error failure => return (.error failure, held)

/-- A request to a handle, and the handle as it is held afterwards. -/
def askHandle {shape : Shape} (hold : Handle shape → Held) (handle : Handle shape)
    (request : Request) (step : HandleStep shape (Option Reply)) :
    Session (Except Failure Reply × Held) := do
  let (outcome, after) ← handle.perform step
  let reply :=
    match outcome with
    | .ok (some reply) => .ok reply
    | .ok none => (hold handle).refuse request
    | .error failure => .error failure
  return (reply, hold after)

/-- What is answered to a request, and what is held after it. -/
def ask (request : Request) : Held → Session (Except Failure Reply × Held)
  | plain handle => askHandle plain handle request (askPlain request)
  | prepared handle => askHandle prepared handle request (askPrepared request)
  | releasing handle => askHandle releasing handle request (askTemplate request)
  | callable handle => askHandle callable handle request (askCallable request)
  | cursor c => askUnchanged (cursor c) request (askCursor c request)
  | data value => askUnchanged (data value) request (askData request value)

/-- Whether a request is one for the release of a handle that has its own. -/
def goesThroughRelease (request : Request) : Held → Bool
  | releasing _ =>
    match request with
    | .close => true
    | _ => false
  | _ => false

end Held

/-- What is wished of a connection. -/
inductive Wish where
  | plain
  | prepared (sql : String)
  | callable (sql : String)
  /-- A prepared handle with a release of its own. -/
  | releasing (sql : String)

/-- What a connection gives for a wish. -/
def Connection.grant (connection : Connection) : Wish → Session Held
  | .plain => do return .plain (← connection.createStatement)
  | .prepared sql => do return .prepared (← connection.prepareStatement sql)
  | .callable sql => do return .callable (← connection.prepareCall sql)
  | .releasing sql => do return .releasing (← connection.prepareStatement sql)

/-- What is held by name, and how often a release was called. -/
structure Bench where
  held : Entries Held := []
  released : Nat := 0

namespace Bench

/-- What is held under a name. -/
def find? (bench : Bench) (name : String) : Option Held := bench.held.get? name

/-- The bench with something held under a name, in place of what was. -/
def hold (bench : Bench) (name : String) (held : Held) : Bench :=
  { bench with held := bench.held.put name held }

/-- Takes what a connection gives for a wish. A wish that fails leaves the bench as it was. -/
def take (bench : Bench) (connection : Connection) (wish : Wish) (name : String) :
    Session (Except Failure Unit × Bench) := do
  match ← Session.attempt (connection.grant wish) with
  | .ok held => return (.ok (), bench.hold name held)
  | .error failure => return (.error failure, bench)

/-- Asks something of what is held under a name; no answer when nothing is. -/
def ask (bench : Bench) (name : String) (request : Request) :
    Session (Option (Except Failure Reply) × Bench) := do
  match bench.find? name with
  | none => return (none, bench)
  | some held =>
    let (outcome, after) ← held.ask request
    let released := if held.goesThroughRelease request then bench.released + 1 else bench.released
    return (some outcome, { bench.hold name after with released := released })

end Bench

end SqlRunner
