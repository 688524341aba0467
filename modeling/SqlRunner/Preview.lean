import SqlRunner.Rendering
import SqlRunner.Result
import SqlRunner.Trace

/-!
# Previews — SQL written out instead of run

A preview renders statements as the runner would and writes each string as a block: the text
without trailing blanks and without the separator it may end in, the dialect's terminator unless
the text ends in it already, the separator on a line of its own where the dialect has one, and an
empty line. All strings of a statement are rendered before the first is written, so an operation
that fails writes nothing.
-/

set_option autoImplicit false

namespace SqlRunner

/-- The page that a preview writes on, and the trace of its events. -/
structure Page where
  text : String := ""
  trace : Recorder := {}

/-- A step of a preview. -/
abbrev PreviewStep := ExceptT Failure (StateM Page)

/-- Writes statements of a dialect for a database at an address. -/
structure Preview where
  dialect : Dialect
  address : String

namespace Preview

/-- Nothing reaches a database through a preview. -/
def updatesDatabase : Bool := false

/-- A preview; without an address it names the dialect in its place. -/
def ofAddress (dialect : Dialect) (address : Option String) : Preview where
  dialect := dialect
  address :=
    match address with
    | some a => if a.isEmpty then "offline:" ++ dialect.name else a
    | none => "offline:" ++ dialect.name

/-- The text of a block without its terminator. -/
def bodyOf (dialect : Dialect) (sql : List Char) : List Char :=
  let text := Text.trimEnd sql
  match dialect.separator? with
  | some separator => Text.trimEnd (Separator.dropTrailing separator.toList text)
  | none => text

/-- A text with the terminator at its end. -/
def terminated (terminator text : List Char) : List Char :=
  if terminator.isSuffixOf text then text else text ++ terminator

/-- The lines behind the text of a block. -/
def closing (dialect : Dialect) : List Char :=
  match dialect.separator? with
  | some separator => '\n' :: separator.toList ++ ['\n', '\n']
  | none => ['\n', '\n']

/-- The block of a string. -/
def block (dialect : Dialect) (sql : String) : String :=
  String.ofList
    (terminated dialect.terminator.toList (bodyOf dialect sql.toList) ++ closing dialect)

/-- Writes the block of a string. -/
def write (p : Preview) (sql : String) : PreviewStep Unit :=
  modify fun page =>
    { text := page.text ++ block p.dialect sql
      trace := page.trace.record ⟨"writing_statement", [("sql", .text sql)]⟩ }

/-- Writes the blocks of strings, one after another. -/
def writeAll (p : Preview) : List String → PreviewStep Unit
  | [] => pure ()
  | sql :: rest => do
    p.write sql
    writeAll p rest

/-- The strings of a statement. -/
def render (p : Preview) (statement : Statement) (visitors : List Visitor) :
    PreviewStep (List String) :=
  match Rendering.render p.dialect visitors statement with
  | .ok rendered => pure rendered
  | .error fault => throw (.fault fault)

/-- Refuses what needs a database. -/
def refuse {α : Type} (p : Preview) (operation : String) : PreviewStep α :=
  throw (.execution ((ExecutionError.connectionUnavailable (some p.address)).withContext
    [.operation (some operation)]))

/-- There are no rows to be had. -/
def query (p : Preview) : PreviewStep QueryResult := p.refuse "query"

/-- There are no rows to be changed. -/
def update (p : Preview) : PreviewStep UpdateResult := p.refuse "update"

/-- Writes a statement. -/
def execute (p : Preview) (statement : Statement) (visitors : List Visitor) :
    PreviewStep Unit := do
  p.writeAll (← p.render statement visitors)

/-- Writes the first string of a call. -/
def executeCallable (p : Preview) (statement : Statement) (visitors : List Visitor) :
    PreviewStep Unit := do
  match ← p.render statement visitors with
  | [] => pure ()
  | sql :: _ => p.write sql

/-- Writes a comment. -/
def comment (message : String) : PreviewStep Unit :=
  modify fun page => { page with text := page.text ++ "-- " ++ message ++ "\n" }

end Preview

end SqlRunner
