import SqlRunner.Dialect
import SqlRunner.Entries
import SqlRunner.Fault
import SqlRunner.Text.CaseMap
import SqlRunner.Text.Search

/-!
# The registry of dialects — which dialect a name or an address means

Names are looked up in lower case. A dialect is registered under any name, and its own name need
not be that one: `postgres` is an alias that finds the dialect called `postgresql`, and listings
leave it out.
-/

set_option autoImplicit false

namespace SqlRunner

/-- Dialects under lower-case names. -/
structure Registry where
  entries : Entries Dialect

namespace Registry

/-- The built-in dialects. -/
def builtin : Registry where
  entries :=
    [("sqlite", .sqlite), ("postgresql", .postgresql), ("postgres", .postgresql), ("db2", .db2),
      ("mysql", .mysql), ("oracle", .oracle), ("mssql", .mssql)]

/-- The dialect under a lower-case name. -/
def find? (registry : Registry) (key : String) : Option Dialect := registry.entries.get? key

/-- The alias that listings leave out. -/
def hiddenAlias : String := "postgres"

/-- The names a caller may choose from, sorted. -/
def listedNames (registry : Registry) : List String :=
  (registry.entries.names.filter (· != hiddenAlias)).mergeSort fun a b => decide (a ≤ b)

/-- The dialect a name means. -/
def get (registry : Registry) (name : String) : Except Fault Dialect :=
  match registry.find? (Text.lower name) with
  | some d => .ok d
  | none => .error (.unknownDialect name registry.listedNames)

/-- The registry with a dialect under a name; it replaces the one that was there. -/
def register (registry : Registry) (name : String) (dialect : Dialect) : Registry :=
  ⟨registry.entries.put (Text.lower name) dialect⟩

/-- The dialect of files and of memory. -/
def fallback (registry : Registry) : Dialect := (registry.find? "sqlite").getD .sqlite

/-- The part of an address before `://`, without the driver that a plus sign adds. -/
def scheme? (url : String) : Option String :=
  (Text.splitOnce? "://".toList url.toList).map fun (before, _) =>
    String.ofList (before.takeWhile (· != '+'))

/-- The name that a scheme goes by in the registry. -/
def nameOfScheme (scheme : String) : String :=
  if scheme == "oracledb" then "oracle" else if scheme == "ibm_db_sa" then "db2" else scheme

/-- The dialect an address means. An address without a scheme is a file or memory. -/
def forUrl (registry : Registry) (url : Option String) : Except Fault Dialect :=
  match url.bind scheme? with
  | none => .ok registry.fallback
  | some scheme =>
    let name := nameOfScheme (Text.lower scheme)
    match registry.find? name with
    | some d => .ok d
    | none => .error (.unknownScheme name)

end Registry

end SqlRunner
