import SqlRunner.Dialect
import SqlRunner.Fault
import SqlRunner.Pattern
import SqlRunner.Text.Blank
import SqlRunner.Text.CaseMap
import SqlRunner.Text.Search

/-!
# Visitors — edits of rendered SQL

A list of visitors is a pipeline: each sees what the one before it left. A visitor may be limited to
dialects by name, in which case it passes over the SQL of the others. Not everything that is put
into such a list is a visitor; what is none is refused when its turn comes and not before.
-/

set_option autoImplicit false

namespace SqlRunner

/-- A function on text, with its name. A text may be refused by it. -/
structure TextFunction where
  name : String
  apply (sql : String) : Except Fault String

namespace TextFunction

/-- Upper case. -/
def upper : TextFunction := ⟨"upper", fun sql => .ok (Text.upper sql)⟩

/-- Lower case. -/
def lower : TextFunction := ⟨"lower", fun sql => .ok (Text.lower sql)⟩

/-- The text without the blanks around it. -/
def strip : TextFunction := ⟨"strip", fun sql => .ok (String.ofList (Text.trim sql.toList))⟩

/-- The text from its end. -/
def reverse : TextFunction := ⟨"reverse", fun sql => .ok (String.ofList sql.toList.reverse)⟩

/-- The text with an exclamation mark. -/
def bang : TextFunction := ⟨"bang", fun sql => .ok (sql ++ "!")⟩

/-- The text twice. -/
def double : TextFunction := ⟨"double", fun sql => .ok (sql ++ sql)⟩

/-- No text. -/
def empty : TextFunction := ⟨"empty", fun _ => .ok ""⟩

/-- No answer to any text. -/
def fail : TextFunction := ⟨"fail", fun sql => .error (.visitorFailed sql)⟩

/-- The functions that can be had by name. -/
def all : List TextFunction := [upper, lower, strip, reverse, bang, double, empty, fail]

/-- The function of a name. -/
def ofName? (written : String) : Option TextFunction := all.find? fun f => f.name == written

end TextFunction

/-- What a visitor does to SQL. -/
inductive Edit where
  | append (value : String)
  | prepend (value : String)
  | replace (old new : String)
  | pattern (pattern : Pattern) (template : String)
  | function (function : TextFunction)

namespace Edit

/-- The edited SQL. -/
def apply (sql : String) : Edit → Except Fault String
  | append value => .ok (sql ++ value)
  | prepend value => .ok (value ++ sql)
  | replace old new => .ok (String.ofList (Text.replaceAll old.toList new.toList sql.toList))
  | pattern p template => (p.replace template sql).mapError Fault.pattern
  | function f => f.apply sql

/-- The edit as a description shows it. -/
def describe : Edit → String
  | append value => "AppendSqlVisitor(" ++ Text.quoted value ++ ")"
  | prepend value => "PrependSqlVisitor(" ++ Text.quoted value ++ ")"
  | replace old new => "ReplaceSqlVisitor(" ++ Text.quoted old ++ " -> " ++ Text.quoted new ++ ")"
  | pattern p template =>
    "RegExpReplaceSqlVisitor(" ++ Text.quoted p.source ++ " -> " ++ Text.quoted template ++ ")"
  | function f => "CallableSqlVisitor(" ++ Text.quoted f.name ++ ")"

end Edit

/-- A visitor of the caller's own making. -/
structure OwnVisitor where
  /-- How a description shows it. -/
  shown : String
  appliesTo (dialect : Dialect) : Bool
  apply (dialect : Dialect) (sql : String) : Except Fault String

/-- One member of a pipeline. -/
inductive Visitor where
  /-- An edit, for the dialects of the given names or, if there are none, for all. -/
  | edit (edit : Edit) (dialects : List String)
  | own (visitor : OwnVisitor)
  /-- A value that is no visitor. -/
  | invalid (value : Datum)

namespace Visitor

/-- A caller's visitor that writes the dialect's name behind the SQL. -/
def tagging (applies : Bool) : Visitor :=
  .own
    { shown := "CustomVisitor"
      appliesTo := fun _ => applies
      apply := fun dialect sql => .ok (sql ++ "[" ++ dialect.name ++ "]") }

/-- Refuses what is no visitor. -/
def check : Visitor → Except Fault Unit
  | invalid value => .error (.notVisitor value.written)
  | edit _ _ | own _ => .ok ()

/-- Whether the visitor means SQL of the dialect. The names it is limited to are compared in lower
    case with the dialect's own name. -/
def appliesTo (dialect : Dialect) : Visitor → Bool
  | edit _ dialects =>
    dialects.isEmpty || dialects.any fun name => Text.lower name == dialect.name
  | own visitor => visitor.appliesTo dialect
  | invalid _ => false

/-- The SQL after the visitor. -/
def apply (dialect : Dialect) (sql : String) : Visitor → Except Fault String
  | edit e _ => e.apply sql
  | own visitor => visitor.apply dialect sql
  | invalid value => .error (.notVisitor value.written)

/-- The visitor as a description shows it. -/
def describe : Visitor → String
  | edit e _ => e.describe
  | own visitor => visitor.shown
  | invalid value => value.written

/-- One step of a pipeline. -/
def step (dialect : Dialect) (sql : String) (visitor : Visitor) : Except Fault String := do
  visitor.check
  if visitor.appliesTo dialect then visitor.apply dialect sql else return sql

/-- The SQL after a whole pipeline. -/
def applyAll (dialect : Dialect) (visitors : List Visitor) (sql : String) : Except Fault String :=
  visitors.foldlM (step dialect) sql

end Visitor

end SqlRunner
