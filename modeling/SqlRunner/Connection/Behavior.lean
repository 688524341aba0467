import SqlRunner.ExecutionError
import SqlRunner.Text.Search

/-!
# The behavior of a database — what a driver answers, and when it refuses

The runner borrows its connection and cannot know what the database behind it will do. Here that is
a value: the rows a query gives, the counts a write reports, every way in which a driver may refuse,
and what it raises then. Statements about the runner quantify over this value, and tests choose one.

A driver may raise anything, be it a fault of its own or an execution error. One kind of error alone
it cannot know: that a statement rendered to another number of strings than one.
-/

set_option autoImplicit false

namespace SqlRunner

/-- What is acquired from a driver and has to be closed. -/
inductive Resource where
  | statement
  | prepared
  | callable
  | cursor
deriving DecidableEq, Repr

namespace Resource

/-- Every resource. -/
def all : List Resource := [statement, prepared, callable, cursor]

/-- The name of a resource in messages. -/
def name : Resource → String
  | statement => "statement"
  | prepared => "prepared"
  | callable => "callable"
  | cursor => "cursor"

/-- The resource of a name. -/
def ofName? (written : String) : Option Resource := all.find? fun r => r.name == written

end Resource

/-- Whether a failure is about the number of strings of a statement. -/
def Failure.countsStrings : Failure → Bool
  | .fault _ => false
  | .execution error => error.kind == .multiStatement

/-- What a driver raises. Only the runner counts strings. -/
structure Raised where
  failure : Failure
  foreign : failure.countsStrings = false

/-- A fault of the driver's, in its own words. -/
def Raised.driver (message : String) : Raised := ⟨.fault (.driver message), rfl⟩

/-- What a driver raises when it refuses SQL. -/
inductive RefusalKind where
  | driver
  | unsupported
  | unavailable
  /-- Whatever it is; the message is its own. -/
  | raising (raised : Raised)

/-- SQL that a driver refuses: any in which `part` occurs. -/
structure RefusedSql where
  part : String
  message : Option String := none
  kind : RefusalKind := .driver

/-- The answers and refusals of a database. -/
structure Behavior where
  /-- The labels of the columns of every query; none when the driver describes nothing. -/
  columns : Option (List Datum) := some [.text "1"]
  rows : List (List Datum) := [[.int 1]]
  /-- What handles of a scripted connection report of a write. -/
  updateCount : Option Int := some 1
  /-- What a raw cursor reports of a write, from the moment it is opened. -/
  rowCount : Option Int := some 1
  refused : List RefusedSql := []
  failAcquire : List Resource := []
  failClose : List Resource := []
  failFetch : Bool := false
  failBind : Bool := false
  /-- What is raised where a resource is refused. -/
  onAcquire : Resource → Raised := fun r => .driver ("cannot acquire " ++ r.name)
  /-- What is raised where closing is refused. -/
  onClose : Resource → Raised := fun r => .driver ("close failed: " ++ r.name)
  /-- What is raised where rows are refused. -/
  onFetch : Raised := .driver "fetch failed"
  /-- What is raised where parameters are refused. -/
  onBind : Raised := .driver "bind failed"
  /-- Whether raw cursors call procedures by name. -/
  callsByName : Bool := false
  /-- Whether raw cursors take the escape mode. -/
  takesEscapes : Bool := false

namespace Behavior

/-- The failure with which SQL is refused. -/
def refusal? (b : Behavior) (sql : String) : Option Failure :=
  match b.refused.find? fun r => Text.occursIn r.part.toList sql.toList with
  | none => none
  | some r =>
    let message := r.message.getD ("cannot execute: " ++ sql)
    match r.kind with
    | .driver => some (.fault (.driver message))
    | .unsupported => some (.execution (.unsupported message (some "driver")))
    | .unavailable => some (.execution (.connectionUnavailable (some message)))
    | .raising raised => some raised.failure

/-- The failure to acquire a resource. -/
def acquireFailure? (b : Behavior) (r : Resource) : Option Failure :=
  if b.failAcquire.contains r then some (b.onAcquire r).failure else none

/-- The failure to close a resource. -/
def closeFailure? (b : Behavior) (r : Resource) : Option Failure :=
  if b.failClose.contains r then some (b.onClose r).failure else none

/-- The failure to bind parameters. -/
def bindFailure? (b : Behavior) : Option Failure :=
  if b.failBind then some b.onBind.failure else none

/-- The failure to fetch rows. -/
def fetchFailure? (b : Behavior) : Option Failure :=
  if b.failFetch then some b.onFetch.failure else none

end Behavior

end SqlRunner
