import SqlRunner.Datum
import SqlRunner.Word

/-!
# Fields of settings — values read as what a field wants

A setting comes as a value of any kind, from a caller or from a variable, where it is a text. Each
field wants a text or a truth value, and what it cannot take is a complaint. Texts are never made of
other values; truth values may be written as words or as the numbers one and zero. A number that is
no whole number, or does not fit into a word, is not even taken for an unclear truth value.
-/

set_option autoImplicit false

namespace SqlRunner

/-- What is wrong with the value of a field. -/
inductive Trouble where
  | notText
  | notTruth
  /-- A text or a number that stands for no truth value. -/
  | unclearTruth
  /-- A text that the field does not take. -/
  | refused (reason : String)
deriving DecidableEq, Repr

namespace Trouble

/-- The name of a kind of trouble. -/
def kindName : Trouble → String
  | notText => "string_type"
  | notTruth => "bool_type"
  | unclearTruth => "bool_parsing"
  | refused _ => "value_error"

/-- The trouble in words. -/
def message : Trouble → String
  | notText => "Input should be a valid string"
  | notTruth => "Input should be a valid boolean"
  | unclearTruth => "Input should be a valid boolean, unable to interpret input"
  | refused reason => "Value error, " ++ reason

end Trouble

/-- A field in trouble. -/
structure Complaint where
  field : String
  trouble : Trouble
deriving DecidableEq, Repr

namespace Datum

/-- The words for a truth value, in lower case. -/
def truthWords : List (String × Bool) :=
  [("1", true), ("true", true), ("t", true), ("yes", true), ("y", true), ("on", true),
    ("0", false), ("false", false), ("f", false), ("no", false), ("n", false), ("off", false)]

/-- A whole number as a truth value. -/
def truthOfInteger (n : Int) : Except Trouble Bool :=
  if n == 1 then .ok true
  else if n == 0 then .ok false
  else .error (if Word.fits n then .unclearTruth else .notTruth)

/-- A number with a fraction as a truth value; the least number of a word does not count here. -/
def truthOfDecimal (d : Decimal) : Except Trouble Bool :=
  match d.asInteger? with
  | some n => if n == -Word.bound then .error .notTruth else truthOfInteger n
  | none => .error .notTruth

/-- A value as a truth value. Words are compared without case, in ASCII alone. -/
def asTruth : Datum → Except Trouble Bool
  | bool b => .ok b
  | int n => truthOfInteger n
  | decimal d => truthOfDecimal d
  | text s =>
    match truthWords.lookup (s.map Char.toLower) with
    | some b => .ok b
    | none => .error .unclearTruth
  | _ => .error .notTruth

/-- A value as a text. -/
def asText : Datum → Except Trouble String
  | text s => .ok s
  | _ => .error .notText

/-- A value where the empty value means that there is none. -/
def optional {α : Type} (read : Datum → Except Trouble α) : Datum → Except Trouble (Option α)
  | null => .ok none
  | d => (read d).map some

end Datum

end SqlRunner
