import SqlRunner.Arguments

/-!
# Error contexts — where a failure happened

A context names the SQL that was attempted, the address of the connection and the operation, and
callers may add entries of their own. `ErrorContext.summary` flattens it all for a log.

Callers write to a context by name. The three named fields take theirs; the names under which the
context keeps something of its own are taken too, and writing to `to_dict`, the name of the summary
itself, leaves the context without one; every other name is an entry of the caller's. Three of its
own names are special: its class cannot be changed by plain data, its bookkeeping not at all, and
under `__dict__` a record replaces everything the context holds. A context that was replaced so may
hold values that no field takes and may lack the place for the caller's entries, which is only
noticed when these are needed.
-/

set_option autoImplicit false

namespace SqlRunner

/-- Where a failure happened. -/
structure ErrorContext where
  /-- The SQL strings that were attempted. -/
  sql : List String := []
  /-- The address of the connection. -/
  address : Option String := none
  operation : Option String := none
  /-- The caller's own entries. -/
  metadata : Fields := []
  /-- Values written over what the context keeps of its own, among them such as a field does not
      take. -/
  overwritten : Fields := []
  /-- Whether there is a place for the caller's own entries. -/
  hasMetadata : Bool := true

/-- One entry added to a context. -/
inductive ContextEntry where
  | sql (texts : List String)
  | address (value : Option String)
  | operation (value : Option String)
  | own (name : String) (value : Datum)
  | extra (name : String) (value : Datum)

namespace Datum

/-- Whether a value counts as nothing. -/
def isNothing : Datum → Bool
  | null => true
  | bool b => !b
  | int n => n == 0
  | decimal d => d.asInteger? == some 0
  | text s => s.isEmpty
  | list items => items.isEmpty
  | record entries => entries.isEmpty
  | binary _ data => data.isEmpty
  | largeObject _ | brokenObject _ | cursor _ => false

/-- The items of a value, of which a text has its characters and a record its names. -/
def items : Datum → Except Fault (List Datum)
  | list items => .ok items
  | text s => .ok (s.toList.map fun c => .text (String.singleton c))
  | record entries => .ok (entries.map fun e => .text e.1)
  | binary _ data => .ok (data.map fun octet => .int octet.toNat)
  | value => .error (.notIterable value.kindName)

/-- A text, if the value is one. -/
def text? : Datum → Option String
  | text s => some s
  | _ => none

/-- The entries that items make, each of which has two items of its own; `index` counts the items
    before. -/
def entriesOf (index : Nat) : List Datum → Except Fault Fields
  | [] => .ok []
  | item :: rest => do
    match item.items with
    | .error _ => throw (.notPair index)
    | .ok [name, value] => return (name.display, value) :: (← entriesOf (index + 1) rest)
    | .ok parts => throw (.pairLength index parts.length)

end Datum

namespace ContextEntry

/-- The names, other than the fields', under which a context keeps something of its own. -/
def ownNames : List String :=
  ["to_dict", "__annotations__", "__class__", "__dataclass_fields__", "__dataclass_params__",
    "__delattr__", "__dict__", "__dir__", "__doc__", "__eq__", "__format__", "__ge__",
    "__getattribute__", "__getstate__", "__gt__", "__hash__", "__init__", "__init_subclass__",
    "__le__", "__lt__", "__match_args__", "__module__", "__ne__", "__new__", "__reduce__",
    "__reduce_ex__", "__repr__", "__setattr__", "__sizeof__", "__str__", "__subclasshook__",
    "__weakref__"]

/-- The entry that the items of a value make as SQL. -/
def ofItems (items : List Datum) : ContextEntry :=
  match items.mapM Datum.text? with
  | some texts => sql texts
  | none => own "sql" (.list items)

/-- The entry that a value makes as the address or the operation. -/
def ofField (name : String) (entry : Option String → ContextEntry) (value : Datum) :
    ContextEntry :=
  match value with
  | .text s => entry (some s)
  | .null => entry none
  | _ => own name value

/-- The entry that a name and a value make. -/
def ofPair (name : String) (value : Datum) : Except Fault ContextEntry :=
  if name == "sql" then value.items.map ofItems
  else if name == "address" then .ok (ofField name address value)
  else if name == "operation" then .ok (ofField name operation value)
  else if ownNames.contains name then .ok (own name value)
  else .ok (extra name value)

end ContextEntry

namespace ErrorContext

/-- The name of a context's kind. -/
def kindName : String := "ErrorContext"

/-- The context with one entry added; what was under its name before is replaced. -/
def note (context : ErrorContext) : ContextEntry → ErrorContext
  | .sql texts =>
    { context with sql := texts, overwritten := context.overwritten.remove "sql" }
  | .address value =>
    { context with address := value, overwritten := context.overwritten.remove "address" }
  | .operation value =>
    { context with operation := value, overwritten := context.overwritten.remove "operation" }
  | .own name value => { context with overwritten := context.overwritten.put name value }
  | .extra name value => { context with metadata := context.metadata.put name value }

/-- A context with one thing put where a record has it, whatever it is. -/
def hold (context : ErrorContext) (name : String) (value : Datum) : ErrorContext :=
  match name, value with
  | "metadata", .record entries =>
    { context with
      metadata := entries
      overwritten := context.overwritten.remove "metadata"
      hasMetadata := true }
  | "metadata", _ => { context.note (.own name value) with hasMetadata := true }
  | "address", _ => context.note (ContextEntry.ofField name .address value)
  | "operation", _ => context.note (ContextEntry.ofField name .operation value)
  | _, _ => context.note (.own name value)

/-- A context that holds what a record holds, and nothing else. -/
def ofRecord (entries : Fields) : ErrorContext :=
  entries.foldl (fun context (name, value) => context.hold name value) { hasMetadata := false }

/-- Refuses an entry of the caller's where there is no place for it. -/
def checkMetadata (context : ErrorContext) : Except Fault Unit := do
  if !context.hasMetadata then throw (.missingMember kindName "metadata")
  if let some value := context.overwritten.get? "metadata" then
    throw (.notAssignable value.kindName)

/-- The context after a value was written to a name of it. -/
def write (context : ErrorContext) (name : String) (value : Datum) :
    Except Fault ErrorContext := do
  match name, value with
  | "__class__", _ => throw (.notClass name value.kindName)
  | "__weakref__", _ => throw (.notWritable kindName name)
  | "__dict__", .record entries => return ofRecord entries
  | "__dict__", _ => throw (.notDictionary name value.kindName)
  | _, _ =>
    match ← ContextEntry.ofPair name value with
    | .extra _ _ =>
      if name != "metadata" && (context.overwritten.get? name).isSome then
        return context.note (.own name value)
      context.checkMetadata
      return context.note (.extra name value)
    | entry => return context.note entry

/-- The SQL for a log, when there is any. -/
def sqlEntry (context : ErrorContext) : Except Fault (Option Datum) := do
  match context.overwritten.get? "sql" with
  | some value => if value.isNothing then return none else return some (.list (← value.items))
  | none =>
    if context.sql.isEmpty then return none
    else return some (.list (context.sql.map Datum.text))

/-- The value of a field, unless it has been written over. -/
def fieldValue? (context : ErrorContext) (name : String) (value : Option String) :
    Option Datum :=
  match context.overwritten.get? name with
  | some other => some other
  | none => value.map .text

/-- The entries of the three fields: SQL when there is any, the others when they are known. -/
def fieldEntries (context : ErrorContext) : Except Fault Fields := do
  let fields :=
    [("sql", ← context.sqlEntry),
      ("address", context.fieldValue? "address" context.address),
      ("operation", context.fieldValue? "operation" context.operation)]
  return fields.filterMap fun (name, value) => value.map (name, ·)

/-- The caller's own entries. -/
def callerEntries (context : ErrorContext) : Except Fault Fields := do
  if !context.hasMetadata then throw (.missingMember kindName "metadata")
  match context.overwritten.get? "metadata" with
  | some value => if value.isNothing then return [] else Datum.entriesOf 0 (← value.items)
  | none => return context.metadata

/-- The context as one set of entries; the caller's come last and so win over the fields. -/
def entries (context : ErrorContext) : Except Fault Fields := do
  let fields ← context.fieldEntries
  return Entries.merge fields (← context.callerEntries)

/-- The entries, unless the summary itself has been written over. -/
def summary (context : ErrorContext) : Except Fault Fields :=
  match context.overwritten.get? "to_dict" with
  | some value => .error (.notCallable value.kindName)
  | none => context.entries

end ErrorContext

end SqlRunner
