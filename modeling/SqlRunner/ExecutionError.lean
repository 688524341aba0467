import SqlRunner.ErrorContext

/-!
# Execution errors — the one error that callers of the runner match on

An execution error has a kind, a message, a context (see `ErrorContext`) and, when it was made from
a fault, its cause. Callers may add to the context. A failure on the way through the runner is
turned into an execution error by `Failure.asExecution`, and one that is an execution error already
stays what it is.
-/

set_option autoImplicit false

namespace SqlRunner

/-- What kind of failure an execution error reports. -/
inductive ErrorKind where
  | multiStatement
  | connectionUnavailable
  | unsupported
  | driverFailure
deriving DecidableEq, Repr

namespace ErrorKind

/-- Every kind. -/
def all : List ErrorKind := [multiStatement, connectionUnavailable, unsupported, driverFailure]

/-- The name that logs and callers know a kind by. -/
def name : ErrorKind → String
  | multiStatement => "MULTI_STATEMENT_NOT_ALLOWED"
  | connectionUnavailable => "CONNECTION_UNAVAILABLE"
  | unsupported => "UNSUPPORTED_OPERATION"
  | driverFailure => "DRIVER_FAILURE"

/-- The kind of a name. -/
def ofName (written : String) : Except Fault ErrorKind :=
  match all.find? fun k => k.name == written with
  | some k => .ok k
  | none => .error (.unknownErrorKind written)

end ErrorKind

/-- What an execution error was made from. -/
inductive Cause where
  | fault (fault : Fault)
  /-- Another execution error, by its message. -/
  | execution (message : String)

/-- The cause in words. -/
def Cause.message : Cause → String
  | .fault f => f.message
  | .execution m => m

/-- The error that leaves the runner. -/
structure ExecutionError where
  message : String
  kind : ErrorKind
  context : ErrorContext := {}
  cause : Option Cause := none

namespace ExecutionError

/-- A statement rendered to another number of strings than one. -/
def multiStatement (sql : List String) (operation : String) : ExecutionError where
  message := "Can only " ++ operation ++
    " with statements that render to exactly one SQL string, got " ++ toString sql.length
  kind := .multiStatement
  context := { sql := sql, operation := some operation }

/-- There is no database behind the connection. -/
def connectionUnavailable (address : Option String) : ExecutionError where
  message := "Cannot execute commands against an offline database"
  kind := .connectionUnavailable
  context := { address := address }

/-- The operation does not make sense for what it was given. -/
def unsupported (message : String) (operation : Option String) : ExecutionError where
  message := message
  kind := .unsupported
  context := { operation := operation }

/-- The error with entries added to its context, in order. -/
def withContext (error : ExecutionError) (entries : List ContextEntry) : ExecutionError :=
  { error with context := entries.foldl ErrorContext.note error.context }

/-- The error with values written to names of its context, in order. -/
def addContext (error : ExecutionError) (fields : Fields) : Except Fault ExecutionError := do
  fields.checkClash "ExecutionError.with_context" ["self"]
  let context ← fields.foldlM (fun c (name, value) => ErrorContext.write c name value)
    error.context
  return { error with context := context }

/-- The error for a log. None is ever worth a retry. -/
def summary (error : ExecutionError) : Except Fault Fields := do
  let context ← error.context.summary
  return [("error_type", .text "ExecutionError"), ("kind", .text error.kind.name),
      ("message", .text error.message), ("retryable", .bool false)] ++
    (if context.isEmpty then [] else [("context", .record context)]) ++
    (match error.cause with
      | some cause => [("cause", .text cause.message)]
      | none => [])

/-- The error as a description shows it. -/
def describe (error : ExecutionError) : String :=
  "ExecutionError(" ++ Text.quoted error.message ++ ", kind=" ++ error.kind.name ++ ")"

end ExecutionError

/-- Anything that can end an operation: a fault as it is, or an execution error. -/
inductive Failure where
  | fault (fault : Fault)
  | execution (error : ExecutionError)

/-- The failure in words. -/
def Failure.message : Failure → String
  | .fault f => f.message
  | .execution e => e.message

/-- The failure as the cause of an error. -/
def Failure.asCause : Failure → Cause
  | .fault f => .fault f
  | .execution e => .execution e.message

/-- The words for a driver's failure. The address stands behind every string but the last. -/
def driverMessage (sql : List String) (address : Option String) (cause : String) : String :=
  let joint := "; on " ++ address.getD "None"
  "Error executing SQL " ++ String.intercalate joint sql ++ ": " ++ cause

/-- A failure on the way through the runner: an execution error stays what it is, and a fault
    becomes an execution error that says what was attempted and where. -/
def Failure.asExecution (failure : Failure) (sql : List String) (address : Option String)
    (operation : Option String) : ExecutionError :=
  match failure with
  | .execution e => e
  | .fault f =>
    { message := driverMessage sql address f.message
      kind := .driverFailure
      context := { sql := sql, address := address, operation := operation }
      cause := some (.fault f) }

end SqlRunner
