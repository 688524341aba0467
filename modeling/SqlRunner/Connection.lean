import SqlRunner.Connection.Handle

/-!
# Connections — where handles come from

A connection is scripted, or adapted from a raw driver that has cursors instead of handles, or
offline. The runner asks three things of it: whether it is offline, its address, and a handle of a
kind. An adapted connection opens the raw cursor before it respells the template of a prepared
handle; a template that cannot be respelled is refused after that.
-/

set_option autoImplicit false

namespace SqlRunner

/-- A connection that is borrowed. -/
inductive Connection where
  /-- A connection that answers as a behavior says and may claim to be offline. -/
  | scripted (url : String) (withoutDatabase : Bool)
  | adapted (url : String) (style : MarkerStyle)
  | offline (url : String)

namespace Connection

/-- The address of an offline connection that is given none. -/
def unknownAddress : String := "offline:unknown"

/-- The markers of a driver: those named for the connection, else those the driver names, else
    question marks. An empty name counts as none. -/
def detectStyle (named driverNamed : Option String) : MarkerStyle :=
  match named with
  | some n => if n.isEmpty then fromDriver else .ofName n
  | none => fromDriver
where
  /-- The markers that the driver names. -/
  fromDriver : MarkerStyle :=
    match driverNamed with
    | some n => .ofName n
    | none => .question

/-- The address of the connection. -/
def url : Connection → String
  | scripted url _ => url
  | adapted url _ => url
  | offline url => url

/-- Whether there is no database behind the connection. -/
def isOffline : Connection → Bool
  | scripted _ withoutDatabase => withoutDatabase
  | adapted _ _ => false
  | offline _ => true

/-- The markers of the driver behind an adapted connection; the others have no driver. -/
def markerStyle : Connection → Except Fault MarkerStyle
  | scripted _ _ => .error (.missingMember "FakeConnection" "paramstyle")
  | adapted _ style => .ok style
  | offline _ => .error (.missingMember "OfflineConnection" "paramstyle")

/-- The connection as a description shows it. -/
def describe : Connection → String
  | scripted url _ => "FakeConnection(" ++ Text.quoted url ++ ")"
  | adapted url style =>
    "DbapiConnection(" ++ Text.quoted url ++ ", paramstyle=" ++ Text.quoted style.name ++ ")"
  | offline url => "OfflineConnection(" ++ Text.quoted url ++ ")"

/-- A raw cursor. Its count is read when it is opened. -/
def openCursor (style : MarkerStyle) : Session Backing := do
  let b ← Session.behavior
  Session.failIf (b.acquireFailure? .cursor)
  Session.write .cursorOpened
  return .cursor style b.rowCount

/-- A handle of a scripted connection. -/
def openScripted {shape : Shape} (sql : String) (entry : Entry) : Session (Handle shape) := do
  Session.failIf ((← Session.behavior).acquireFailure? shape.resource)
  Session.write entry
  return { backing := .scripted, sql := sql }

/-- What an offline connection answers to every wish for a handle. -/
def refuseHandle {α : Type} (url : String) : Session α :=
  Session.fail (.execution (.connectionUnavailable (some url)))

/-- A handle for SQL that is given when it is run. -/
def createStatement : Connection → Session (Handle .plain)
  | scripted _ _ => openScripted "" .created
  | adapted _ style => do return { backing := ← openCursor style }
  | offline url => refuseHandle url

/-- A handle for a template. -/
def prepareStatement (sql : String) : Connection → Session (Handle .prepared)
  | scripted _ _ => openScripted sql (.prepared sql)
  | adapted _ style => do
    let backing ← openCursor style
    let respelled ← Session.ofFault (Marker.respell sql style)
    return { backing := backing, sql := respelled }
  | offline url => refuseHandle url

/-- A handle for a call. -/
def prepareCall (sql : String) : Connection → Session (Handle .callable)
  | scripted _ _ => openScripted sql (.preparedCall sql)
  | adapted _ style => do return { backing := ← openCursor style, sql := sql }
  | offline url => refuseHandle url

/-- What the owner of a connection may ask of it. -/
inductive Transaction where
  | commit
  | rollback
  | close
deriving DecidableEq, Repr

/-- The name of a transaction. -/
def Transaction.name : Transaction → String
  | commit => "commit"
  | rollback => "rollback"
  | close => "close"

/-- Asks it of an adapted connection; the others know no transactions. -/
def transact (t : Transaction) : Connection → Session Unit
  | adapted _ _ =>
    Session.write
      (match t with
      | .commit => .committed
      | .rollback => .rolledBack
      | .close => .connectionClosed)
  | offline _ => Session.fail (.fault (.missingMember "OfflineConnection" t.name))
  | scripted _ _ => Session.fail (.fault (.missingMember "FakeConnection" t.name))

end Connection

end SqlRunner
