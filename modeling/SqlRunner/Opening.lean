import SqlRunner.Address
import SqlRunner.Connection
import SqlRunner.FileTree

/-!
# Opening — from an address to a connection

A database in memory or in a file is opened at once; for everything else an engine is asked, which
names its backend and the markers of its driver, and reports its address without the password. The
connection comes with information about it. A file's connection is addressed by the absolute path of
the file, whatever was written, and that address reads back as the same file.
-/

set_option autoImplicit false

namespace SqlRunner

/-- What is known about an opened connection. -/
structure ConnectionInfo where
  backend : String
  /-- Whether the data outlive the process. -/
  persistent : Bool
  /-- The address that was asked for. -/
  url : String
  /-- The absolute path of a file. -/
  resolvedPath : Option String := none

namespace ConnectionInfo

/-- The path, if there is one worth showing. -/
def path? (info : ConnectionInfo) : Option String := info.resolvedPath.filter fun p => !p.isEmpty

/-- The information as a description shows it. -/
def describe (info : ConnectionInfo) : String :=
  let place :=
    match info.path? with
    | some path => "path=" ++ Text.quoted path
    | none => "url=" ++ Text.quoted info.url
  "ConnectionInfo(backend=" ++ Text.quoted info.backend ++ ", persistent=" ++
    (Datum.bool info.persistent).written ++ ", " ++ place ++ ")"

/-- Whether the backend is SQLite. -/
def isSqlite (info : ConnectionInfo) : Bool := info.backend == "sqlite"

end ConnectionInfo

/-- What an engine says of a connection that it opened. -/
structure Engine where
  /-- The name of the backend. -/
  name : String
  /-- The name of the style of markers. -/
  markerStyle : String
  /-- The address without the password. -/
  safeUrl : String

/-- An opened connection. -/
structure Opened where
  connection : Connection
  info : ConnectionInfo
  /-- The files there are now. -/
  tree : FileTree
  /-- The place of the database, if it is a file. -/
  place : Option Location := none

namespace Opened

/-- Whether the directory of a database file is there. -/
def directoryExists? (opened : Opened) : Option Bool :=
  opened.place.map fun place => opened.tree.kind? place.parent == some .directory

end Opened

namespace Address

/-- The address of a SQLite database at a place. -/
def sqliteUrl (place : String) : String := "sqlite:///" ++ place

/-- A database in memory. -/
def openMemory (tree : FileTree) : Opened where
  connection := .adapted (sqliteUrl inMemory) .question
  info := { backend := "sqlite", persistent := false, url := inMemory }
  tree := tree

/-- A database in a file. -/
def openFile (tree : FileTree) (path : String) : Except Fault Opened := do
  let (after, place) ← tree.openFile path
  let resolved := after.textOf place
  return {
    connection := .adapted (sqliteUrl resolved) .question
    info := { backend := "sqlite", persistent := true, url := path, resolvedPath := some resolved }
    tree := after
    place := some place }

/-- A database that an engine reached. -/
def openEngine (tree : FileTree) (engine : Engine) : Opened where
  connection :=
    .adapted engine.safeUrl (Connection.detectStyle (some engine.markerStyle) none)
  info := { backend := engine.name, persistent := true, url := engine.safeUrl }
  tree := tree

/-- Opens the database at an address, among the files of a tree. `engine` is what an engine answers
    if it is asked. -/
def connect (address : Address) (tree : FileTree) (engine : Except Fault Engine) :
    Except Fault Opened :=
  match address with
  | memory => .ok (openMemory tree)
  | database path | file path => openFile tree path
  | Address.engine _ => engine.map (openEngine tree)

end Address

end SqlRunner
