import SqlRunner.ExecutionError
import SqlRunner.Separator
import SqlRunner.Statement
import SqlRunner.Statement.Split
import SqlRunner.Visitor

/-!
# Rendering — from a statement to the strings that are run

A statement is first generated, which gives the strings it consists of in this dialect, and each
string is then finished: visitors edit it, and a doubled separator at its end is mended where the
dialect asks for that. Rendering is pure, and it is the same for running and for previewing.
-/

set_option autoImplicit false

namespace SqlRunner

/-- The strings that a command consists of. -/
def Command.generate : Command → Except Fault (List String)
  | .raw sql delimiter split => .ok (Split.parts sql delimiter split)
  | .prepared sql _ | .call sql _ => .ok [sql]
  | .foreign kind => .error (.notRenderable kind)

/-- The strings of commands, one after another. -/
def generateAll : List Command → Except Fault (List String)
  | [] => .ok []
  | c :: rest => do
    let first ← c.generate
    let others ← generateAll rest
    return first ++ others

namespace Rendering

/-- The separator that a dialect has mended. -/
def mendedSeparator (dialect : Dialect) : String := dialect.separator?.getD "/"

/-- The strings that a statement consists of: its commands are settled first, then their strings. -/
def generate (dialect : Dialect) (statement : Statement) : Except Fault (List String) := do
  generateAll (← statement.expand dialect.name)

/-- A generated string made ready to run. -/
def finish (dialect : Dialect) (visitors : List Visitor) (sql : String) :
    Except Fault String := do
  let edited ← Visitor.applyAll dialect visitors sql
  if dialect.mendsSeparator then Separator.mendDoubled edited (mendedSeparator dialect)
  else return edited

/-- Strings made ready to run, one after another. -/
def finishAll (dialect : Dialect) (visitors : List Visitor) :
    List String → Except Fault (List String)
  | [] => .ok []
  | sql :: rest => do
    let first ← finish dialect visitors sql
    let others ← finishAll dialect visitors rest
    return first :: others

/-- The strings to run for a statement. -/
def render (dialect : Dialect) (visitors : List Visitor) (statement : Statement) :
    Except Fault (List String) := do
  finishAll dialect visitors (← generate dialect statement)

/-- The one string to run for a statement that an operation cannot take in parts. -/
def renderSingle (dialect : Dialect) (visitors : List Visitor) (operation : String)
    (statement : Statement) : Except Failure String :=
  match render dialect visitors statement with
  | .error fault => .error (.fault fault)
  | .ok [sql] => .ok sql
  | .ok rendered => .error (.execution (.multiStatement rendered operation))

end Rendering

end SqlRunner
