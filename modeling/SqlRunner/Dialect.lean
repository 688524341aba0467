/-!
# Dialects — what database families disagree about at execution time

Little of what differs between families matters here: the marker that stands for a parameter in
rendered text, the separator between the batches of a script, the terminator of a statement that is
written out, and whether rendered text may end in a doubled separator that has to be mended before
it is run.
-/

set_option autoImplicit false

namespace SqlRunner

/-- A database family. -/
structure Dialect where
  name : String
  /-- The marker of a parameter. -/
  placeholder : String := "?"
  /-- The line between two batches of a script, if the family has one. -/
  batchSeparator : Option String := none
  /-- What ends a statement that is written out. -/
  terminator : String := ";"
  /-- Whether rendered text may end in a doubled separator. -/
  mendsSeparator : Bool := false
  /-- Whether procedures can be called. -/
  callsProcedures : Bool := true
deriving DecidableEq, Repr

namespace Dialect

/-- SQLite has neither procedures nor batches. -/
def sqlite : Dialect := { name := "sqlite", callsProcedures := false }

/-- PostgreSQL. -/
def postgresql : Dialect := { name := "postgresql" }

/-- DB2. -/
def db2 : Dialect := { name := "db2" }

/-- MySQL. -/
def mysql : Dialect := { name := "mysql" }

/-- Oracle ends a block with a slash on a line of its own, and scripts often repeat it. -/
def oracle : Dialect := { name := "oracle", batchSeparator := some "/", mendsSeparator := true }

/-- SQL Server separates batches by a line `GO`. -/
def mssql : Dialect := { name := "mssql", batchSeparator := some "GO" }

/-- The separator between batches; an empty one counts as none. -/
def separator? (d : Dialect) : Option String :=
  match d.batchSeparator with
  | some s => if s.isEmpty then none else some s
  | none => none

end Dialect

end SqlRunner
