import SqlRunner.Dialect
import SqlRunner.Fault

/-!
# Statements — what callers ask to have run

A *command* is concrete: text that may hold several statements, a template with parameters, or the
call of a procedure. A *change* is a plan that becomes commands once the dialect is known, possibly
by way of further changes. A *statement* is either, so that both can go through the same
operations.

Expansion resolves changes into commands, depth first and from left to right; that no change is left
over is what its type says.
-/

set_option autoImplicit false

namespace SqlRunner

/-- What can be rendered and run without further resolution. -/
inductive Command where
  /-- Text, cut at its delimiter when `split` says so. -/
  | raw (sql delimiter : String) (split : Bool)
  /-- A template and the parameters bound to its markers. It binds and runs itself. -/
  | prepared (sql : String) (parameters : List Datum)
  /-- A call of a procedure. -/
  | call (sql : String) (parameters : List Datum)
  /-- Something that is no statement at all, under the name of its kind. -/
  | foreign (kind : String)

mutual

/-- A command or a change. -/
inductive Statement where
  | command (command : Command)
  | change (change : Change)

/-- A plan that becomes statements for a dialect. -/
inductive Change where
  /-- The same statements for every dialect. -/
  | fixed (statements : List Statement)
  /-- Statements chosen by the dialect's name. -/
  | byDialect (cases : List (String × List Statement)) (fallback : Option (List Statement))
  /-- No statements. -/
  | nothing
  /-- A plan that cannot be resolved. -/
  | failing (message : String)

end

/-- The delimiter that text is cut at when none is named. -/
def defaultDelimiter : String := ";"

namespace Command

/-- The parameters of a command; text has none. -/
def parameters : Command → List Datum
  | prepared _ ps | call _ ps => ps
  | raw _ _ _ | foreign _ => []

/-- Whether the command binds and runs itself. -/
def isSelfExecuting : Command → Bool
  | prepared _ _ => true
  | _ => false

end Command

mutual

/-- The commands of a statement for the dialect of a name. -/
def Statement.expand (dialect : String) : Statement → Except Fault (List Command)
  | .command c => .ok [c]
  | .change c => c.expand dialect

/-- The commands of a change. -/
def Change.expand (dialect : String) : Change → Except Fault (List Command)
  | .fixed statements => expandAll dialect statements
  | .byDialect cases fallback =>
    match expandCase dialect cases with
    | some expanded => expanded
    | none => expandFallback dialect fallback
  | .nothing => .ok []
  | .failing message => .error (.driver message)

/-- The commands of statements, one after another. -/
def expandAll (dialect : String) : List Statement → Except Fault (List Command)
  | [] => .ok []
  | s :: rest => do
    let first ← s.expand dialect
    let others ← expandAll dialect rest
    return first ++ others

/-- The commands of the case for the dialect, if there is one. -/
def expandCase (dialect : String) :
    List (String × List Statement) → Option (Except Fault (List Command))
  | [] => none
  | (name, statements) :: rest =>
    if name == dialect then some (expandAll dialect statements) else expandCase dialect rest

/-- The commands of the case for all other dialects. -/
def expandFallback (dialect : String) :
    Option (List Statement) → Except Fault (List Command)
  | none => .ok []
  | some statements => expandAll dialect statements

end

namespace Statement

/-- The parameters that a statement itself carries; a change carries none. -/
def parameters : Statement → List Datum
  | command c => c.parameters
  | change _ => []

/-- Whether the statement binds and runs itself. -/
def isSelfExecuting : Statement → Bool
  | command c => c.isSelfExecuting
  | change _ => false

end Statement

/-- A change as a description shows it; only fixed changes have one. -/
def Change.describe? : Change → Option String
  | .fixed statements => some ("SimpleChange(" ++ toString statements.length ++ " statements)")
  | _ => none

end SqlRunner
