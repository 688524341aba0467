import SqlRunner.Fault
import SqlRunner.Fields
import SqlRunner.Text.CaseMap
import SqlRunner.Word

/-!
# Results — rows read in full, and counts of changed rows

A result is read from its cursor at once, so nothing of the driver outlives the operation. Rows are
fields under upper-cased labels; where two labels fall together, the later column wins. Values are
unwrapped on the way: binary data become plain octets, and large objects are read, one layer of
each.
-/

set_option autoImplicit false

namespace SqlRunner

/-- A value of a row, unwrapped. Reading a large object may fail. -/
def Datum.extracted : Datum → Except Fault Datum
  | .binary _ data => .ok (.binary .fixed data)
  | .largeObject content => .ok content
  | .brokenObject message => .error (.driver message)
  | d => .ok d

/-- The labels of columns, in upper case. Without a description there are none. -/
def columnLabels (description : Option (List Datum)) : List String :=
  (description.getD []).map fun label => Text.upper label.display

/-- A row, by the labels of its columns. What exceeds the shorter of the two is left out. -/
def mapRow (labels : List String) (row : List Datum) : Except Fault Fields :=
  (labels.zip row).foldlM (fun fields (label, value) => do
    return fields.put label (← value.extracted)) []

/-- Rows with the labels of their columns. -/
structure QueryResult where
  rows : List Fields := []
  columns : List String := []

namespace QueryResult

/-- Rows mapped one after another. -/
def mapRows (labels : List String) : List (List Datum) → Except Fault (List Fields)
  | [] => .ok []
  | row :: rest => do
    let first ← mapRow labels row
    let others ← mapRows labels rest
    return first :: others

/-- The result of a cursor with a description and rows. -/
def ofCursor (description : Option (List Datum)) (rows : List (List Datum)) :
    Except Fault QueryResult := do
  let labels := columnLabels description
  return ⟨← mapRows labels rows, labels⟩

/-- The result of rows that are fields already. The first row names the columns. -/
def ofRows (rows : List (List (String × Datum))) : QueryResult :=
  let frozen := rows.map (Entries.merge [])
  ⟨frozen, (frozen.head?.map Entries.names).getD []⟩

/-- The number of rows. -/
def size (r : QueryResult) : Nat := r.rows.length

/-- Whether there are no rows. -/
def isEmpty (r : QueryResult) : Bool := r.rows.isEmpty

/-- The first row. -/
def first? (r : QueryResult) : Option Fields := r.rows.head?

/-- A row by position; a negative one counts from the end. Positions are words. -/
def row (r : QueryResult) (index : Int) : Except Fault Fields :=
  let position := if index < 0 then index + r.rows.length else index
  if !Word.fits index then .error .positionTooLarge
  else if position < 0 then .error .rowOutOfRange
  else
    match r.rows[position.toNat]? with
    | some fields => .ok fields
    | none => .error .rowOutOfRange

/-- The first column of the first row; nothing without rows or columns. A row too short to have
    that column is a fault. -/
def scalar (r : QueryResult) : Except Fault Datum :=
  match r.rows, r.columns with
  | fields :: _, label :: _ =>
    match fields.get? label with
    | some value => .ok value
    | none => .error (.missingColumn label)
  | _, _ => .ok .null

/-- A column of every row, by its name in any case; a row without it gives nothing. -/
def column (r : QueryResult) (name : String) : List Datum :=
  r.rows.map fun fields => (fields.get? (Text.upper name)).getD .null

end QueryResult

/-- The number of rows that a write changed. -/
structure UpdateResult where
  affectedRows : Nat
deriving DecidableEq, Repr

namespace UpdateResult

/-- A count that is known to be none of a driver's ways of saying "unknown". -/
def ofCount (count : Int) : Except Fault UpdateResult :=
  if count < 0 then .error (.negativeRowCount count) else .ok ⟨count.toNat⟩

/-- A count as a driver reports it: a missing or a negative one is unknown and counts as zero. -/
def ofReport (count : Option Int) : UpdateResult := ⟨(count.getD 0).toNat⟩

end UpdateResult

end SqlRunner
