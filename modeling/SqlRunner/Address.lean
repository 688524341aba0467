import SqlRunner.Text.Search

/-!
# Addresses — where a database is, as users write it

An address names a database in memory, a file, or something that only an engine can reach. Files are
written as they are or behind a scheme of SQLite's; everything else that has a scheme is left to an
engine. Schemes are told apart by their exact spelling.
-/

set_option autoImplicit false

namespace SqlRunner

/-- Where a database is. -/
inductive Address where
  | memory
  /-- A file that was written behind a scheme. -/
  | database (path : String)
  /-- A file that was written as it is. -/
  | file (path : String)
  /-- What an engine reaches. -/
  | engine (url : String)
deriving DecidableEq, Repr

namespace Address

/-- The name that stands for a database in memory. -/
def inMemory : String := ":memory:"

/-- The words for a database in memory, one of which is nothing at all. -/
def memoryWords : List String := ["", "memory", inMemory]

/-- The text behind the first of the given beginnings that it has. -/
def behind? (beginnings : List String) (text : String) : Option String :=
  (beginnings.find? fun b => b.toList.isPrefixOf text.toList).map fun b =>
    String.ofList (text.toList.drop b.toList.length)

/-- The beginnings of an address of a SQLite file, the longer one first. -/
def sqliteBeginnings : List String := ["sqlite:///", "sqlite://"]

/-- The address that a text writes. -/
def ofText (text : String) : Address :=
  if memoryWords.contains text then memory
  else
    match behind? sqliteBeginnings text with
    | some path => if path.isEmpty || path == inMemory then memory else database path
    | none => if Text.occursIn "://".toList text.toList then engine text else file text

/-- The address of what may be left out. -/
def ofText? (text : Option String) : Address :=
  match text with
  | some t => ofText t
  | none => memory

/-- The name of the kind of an address. -/
def scheme : Address → String
  | memory => "memory"
  | database _ => "sqlite"
  | file _ => "file"
  | engine _ => "sqlalchemy"

/-- What an address points to. -/
def target : Address → String
  | memory => inMemory
  | database path | file path => path
  | engine url => url

/-- The addresses that an engine is asked for when the database is opened. -/
def engineUrls : Address → List String
  | engine url => [url]
  | memory | database _ | file _ => []

end Address

end SqlRunner
