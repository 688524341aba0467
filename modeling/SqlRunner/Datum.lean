import SqlRunner.Decimal
import SqlRunner.Text.Quoted

/-!
# Data — what a driver takes as a parameter and hands out in a row

Plain data are the empty value, truth values, numbers, texts, lists and records. A driver may hand
out more: binary data in one of three wrappings, large objects that have to be read before their
content is there, and cursors. `Datum.extracted` turns what a row holds into plain data;
`Datum.written` is the form in which messages show a value, and `Datum.display` the same with a
text on its own left without quotes.
-/

set_option autoImplicit false

namespace SqlRunner

/-- The wrappings of binary data: fixed, growable, and a view into a driver's buffer. -/
inductive BinaryKind where
  | fixed
  | growable
  | view
deriving DecidableEq, Repr

/-- Who handed out a cursor: the raw driver, or a scripted connection. -/
inductive CursorKind where
  | raw
  | scripted
deriving DecidableEq, Repr

/-- A value of a parameter list or of a row. -/
inductive Datum where
  | null
  | bool (value : Bool)
  | int (value : Int)
  | decimal (value : Decimal)
  | text (value : String)
  | list (items : List Datum)
  | record (entries : List (String × Datum))
  | binary (kind : BinaryKind) (data : List UInt8)
  /-- A large object; reading it gives `content`. -/
  | largeObject (content : Datum)
  /-- A large object that cannot be read. -/
  | brokenObject (message : String)
  | cursor (kind : CursorKind)
deriving Repr

namespace Datum

mutual

/-- The form in which messages show a value. -/
def written : Datum → String
  | null => "None"
  | bool b => if b then "True" else "False"
  | int n => toString n
  | decimal d => d.toText
  | text s => Text.quoted s
  | list items => "[" ++ String.intercalate ", " (writtenItems items) ++ "]"
  | record entries => "\x7b" ++ String.intercalate ", " (writtenEntries entries) ++ "\x7d"
  | binary .fixed data => "b" ++ Text.quotedOctets data
  | binary .growable data => "bytearray(b" ++ Text.quotedOctets data ++ ")"
  | binary .view _ => "<memory>"
  | largeObject _ => "<large object>"
  | brokenObject _ => "<large object>"
  | cursor .raw => "<cursor>"
  | cursor .scripted => "<cursor>"

/-- The written forms of the items of a list. -/
def writtenItems : List Datum → List String
  | [] => []
  | d :: rest => d.written :: writtenItems rest

/-- The written forms of the entries of a record. -/
def writtenEntries : List (String × Datum) → List String
  | [] => []
  | (key, d) :: rest => (Text.quoted key ++ ": " ++ d.written) :: writtenEntries rest

end

/-- A value on its own: a text as it is, anything else in its written form. -/
def display : Datum → String
  | text s => s
  | d => d.written

/-- Whether the value is wrapped in a form that only the driver understands. -/
def isWrapped : Datum → Bool
  | binary .growable _ | binary .view _ | largeObject _ | brokenObject _ => true
  | _ => false

end Datum

end SqlRunner
