import SqlRunner.Connection.Behavior
import SqlRunner.Marker

/-!
# The journal of a connection — every call that reached the driver

A journal has an entry for each call that the driver accepted, in order, and one for each attempt to
close something, which is made whether or not it succeeds. Who opened what, and whether it was
closed, is read off the journal.
-/

set_option autoImplicit false

namespace SqlRunner

/-- The three ways to run SQL. -/
inductive Verb where
  | execute
  | query
  | update
deriving DecidableEq, Repr

/-- One call to a driver. -/
inductive Entry where
  /-- A plain handle was created. -/
  | created
  /-- A handle was prepared for a template. -/
  | prepared (sql : String)
  /-- A handle was prepared for a call. -/
  | preparedCall (sql : String)
  /-- A plain handle ran SQL. -/
  | ran (verb : Verb) (sql : String)
  /-- A plain handle switched its escape mode. -/
  | escapes (enabled : Bool)
  /-- Parameters were bound. -/
  | bound (parameters : List Datum)
  /-- A prepared handle ran its template. -/
  | ranPrepared (verb : Verb) (sql : String) (parameters : List Datum)
  /-- A handle made its call. -/
  | called (sql : String) (parameters : List Datum)
  /-- Something was closed, or refused to be. -/
  | closed (resource : Resource)
  /-- A raw cursor was opened. -/
  | cursorOpened
  /-- A raw cursor ran SQL, with the arguments it was handed. -/
  | cursorRan (sql : String) (arguments : Option Marker.Arguments)
  /-- A raw cursor called a procedure by name. -/
  | cursorCalled (name : String) (parameters : List Datum)
  /-- A raw cursor switched its escape mode. -/
  | cursorEscapes (enabled : Bool)
  | committed
  | rolledBack
  | connectionClosed

end SqlRunner
