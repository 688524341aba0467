import SqlRunner.Datum
import SqlRunner.Pattern.Flaw

/-!
# Faults — what can go wrong outside the runner's own error

A fault is named by its cause. Drivers, the callbacks of callers and the readers of this library all
raise faults; the runner turns those that come from a driver into its own error (see
`ExecutionError`) and lets those that are mistakes of the caller pass. `Fault.message` is the only
place where a fault is put into words.
-/

set_option autoImplicit false

namespace SqlRunner

/-- The kind of a plain value, as messages name it. -/
def Datum.kindName : Datum → String
  | .null => "NoneType"
  | .bool _ => "bool"
  | .int _ => "int"
  | .decimal _ => "float"
  | .text _ => "str"
  | .list _ => "list"
  | .record _ => "dict"
  | .binary .fixed _ => "bytes"
  | .binary .growable _ => "bytearray"
  | .binary .view _ => "memoryview"
  | .largeObject _ | .brokenObject _ => "Lob"
  | .cursor .raw => "RawCursor"
  | .cursor .scripted => "FakeCursor"

/-- What went wrong. -/
inductive Fault where
  /-- A driver refused something. -/
  | driver (message : String)
  /-- A caller's own code refused a value. -/
  | value (message : String)
  | unknownDialect (name : String) (known : List String)
  | unknownScheme (scheme : String)
  | unsupportedMarkers (style : String)
  | negativeRowCount (count : Int)
  | unknownErrorKind (name : String)
  | visitorFailed (sql : String)
  | notRenderable (kind : String)
  | notVisitor (shown : String)
  | notCallable (kind : String)
  | notIterable (kind : String)
  /-- An argument of a call that is given a second time, by name. -/
  | repeatedArgument (call argument : String)
  /-- Plain data where a class is wanted. -/
  | notClass (member kind : String)
  | notDictionary (member kind : String)
  /-- A value whose items cannot be set. -/
  | notAssignable (kind : String)
  /-- Among items that are to be pairs, one without items of its own. -/
  | notPair (index : Nat)
  /-- Among items that are to be pairs, one of another length. -/
  | pairLength (index length : Nat)
  | rowOutOfRange
  | positionTooLarge
  | missingColumn (label : String)
  | unknownLogLevel (name : String)
  | missingMember (owner member : String)
  | notWritable (owner member : String)
  | pattern (refusal : Pattern.Refusal)
  /-- A file where a directory has to be made. -/
  | fileInTheWay (path : String)
  /-- A file on the way to a directory. -/
  | notADirectory (path : String)
  /-- A name or a path beyond the bounds of the system. -/
  | nameTooLong (path : String)
  /-- A path with the character zero in it. -/
  | zeroInPath
  | databaseUnopenable

namespace Fault

/-- A list of names as messages show it. -/
def listed (names : List String) : String :=
  "[" ++ String.intercalate ", " (names.map Text.quoted) ++ "]"

/-- The fault in words. -/
def message : Fault → String
  | driver m => m
  | value m => m
  | unknownDialect name known =>
    "Unknown dialect '" ++ name ++ "'. Supported: " ++ listed known
  | unknownScheme scheme => "Cannot determine dialect for URL scheme '" ++ scheme ++ "'"
  | unsupportedMarkers style => "Unsupported paramstyle: " ++ style
  | negativeRowCount count => "affected_rows must be >= 0, got " ++ toString count
  | unknownErrorKind name => Text.quoted name ++ " is not a valid ErrorKind"
  | visitorFailed sql => "visitor failed on " ++ sql
  | notRenderable kind => "Cannot render " ++ kind
  | notVisitor shown => "Not a SQL visitor: " ++ shown
  | notCallable kind => Text.quoted kind ++ " object is not callable"
  | notIterable kind => Text.quoted kind ++ " object is not iterable"
  | repeatedArgument call argument =>
    call ++ "() got multiple values for argument " ++ Text.quoted argument
  | notClass member kind =>
    member ++ " must be set to a class, not " ++ Text.quoted kind ++ " object"
  | notDictionary member kind =>
    member ++ " must be set to a dictionary, not a " ++ Text.quoted kind
  | notAssignable kind =>
    if kind == "list" then "list indices must be integers or slices, not str"
    else Text.quoted kind ++ " object does not support item assignment"
  | notPair index =>
    "cannot convert dictionary update sequence element #" ++ toString index ++ " to a sequence"
  | pairLength index length =>
    "dictionary update sequence element #" ++ toString index ++ " has length " ++
      toString length ++ "; 2 is required"
  | rowOutOfRange => "tuple index out of range"
  | positionTooLarge => "cannot fit 'int' into an index-sized integer"
  | missingColumn label => Text.quoted label
  | unknownLogLevel name => "module 'logging' has no attribute " ++ Text.quoted name
  | missingMember owner member =>
    Text.quoted owner ++ " object has no attribute " ++ Text.quoted member
  | notWritable owner member =>
    "attribute " ++ Text.quoted member ++ " of " ++ Text.quoted owner ++ " objects is not writable"
  | pattern refusal => refusal.message
  | fileInTheWay path => "[Errno 17] File exists: " ++ Text.quoted path
  | notADirectory path => "[Errno 20] Not a directory: " ++ Text.quoted path
  | nameTooLong path => "[Errno 36] File name too long: " ++ Text.quoted path
  | zeroInPath => "embedded null byte"
  | databaseUnopenable => "unable to open database file"

end Fault

end SqlRunner
