import SqlRunner.ErrorContext
import SqlRunner.Proofs.LastWrites

/-!
# Records — what a context shows that a record was put in place of

A record under `__dict__` takes the place of all that a context holds, and what the context shows
from then on is read off the record (`ErrorContext.summary_ofRecord`). Nothing has to be in a
record: without `metadata` there is no summary, and neither is there one with `to_dict`. Nor has
anything in it to be what a field takes, and its `metadata` may have the names of the fields, which
it then shows over them.

The record is held one entry after another. Each of the five things that a summary looks at is
decided by the entry of one name and left alone by all others, so what is seen after the whole
record is what its entry of that name makes (`ErrorContext.read_ofRecord`).
-/

set_option autoImplicit false

namespace SqlRunner

namespace Entries

variable {α : Type}

theorem get?_remove_self (entries : Entries α) (name : String) :
    (entries.remove name).get? name = none := by
  rw [get?, remove, Option.map_eq_none_iff, List.find?_eq_none]
  intro e mem same
  exact bne_iff_ne.mp (List.mem_filter.mp mem).2 (eq_of_beq same)

theorem get?_remove_of_ne (entries : Entries α) {name other : String} (apart : other ≠ name) :
    (entries.remove name).get? other = entries.get? other := by
  induction entries with
  | nil => rfl
  | cons e rest ih =>
    rw [remove, List.filter_cons]
    by_cases same : e.1 = name
    · rw [if_neg (by simp [same]), get?_cons, if_neg (same ▸ Ne.symm apart), ← ih, remove]
    · rw [if_pos (bne_iff_ne.mpr same), get?_cons, get?_cons, ← ih, remove]

end Entries

namespace ErrorContext

/-! ## The summary of a record -/

/-- What is shown as SQL of a value that stands in its place: its items, if it counts as more than
    nothing. -/
def sqlOf (value : Datum) : Except Fault (Option Datum) :=
  if value.isNothing then .ok none else do return some (.list (← value.items))

/-- What is shown of a value in the place of the address or the operation. -/
def fieldOf : Datum → Option Datum
  | .null => none
  | value => some value

/-- The entries of the caller's that a value stands for. -/
def callersOf : Datum → Except Fault Fields
  | .record entries => .ok entries
  | value => if value.isNothing then .ok [] else do Datum.entriesOf 0 (← value.items)

/-- The summary of a context that holds a record and nothing else. -/
def recordSummary (record : Fields) : Except Fault Fields := do
  if let some value := record.get? "to_dict" then throw (.notCallable value.kindName)
  let sql ← ((record.get? "sql").map sqlOf).getD (.ok none)
  let callers ←
    ((record.get? "metadata").map callersOf).getD (.error (.missingMember kindName "metadata"))
  let fields :=
    [("sql", sql), ("address", (record.get? "address").bind fieldOf),
      ("operation", (record.get? "operation").bind fieldOf)]
  return Entries.merge (fields.filterMap fun (name, value) => value.map (name, ·)) callers

/-- Without a place for the caller's entries there is no summary. -/
example : recordSummary [("sql", .list [.text "SELECT 1"])] =
    .error (.missingMember "ErrorContext" "metadata") := rfl

/-! ## Holding a record -/

variable {context : ErrorContext} {name other : String}

/-- What is not one of three names is held as it is. -/
theorem hold_own (value : Datum) (metadata : name ≠ "metadata") (address : name ≠ "address")
    (operation : name ≠ "operation") :
    context.hold name value = context.note (.own name value) := by
  unfold hold
  split
  · exact absurd rfl metadata
  · exact absurd rfl metadata
  · exact absurd rfl address
  · exact absurd rfl operation
  · rfl

theorem overwritten_note_ofField (value : Datum) (apart : other ≠ name)
    (entry : Option String → ContextEntry)
    (removes : ∀ v, (context.note (entry v)).overwritten = context.overwritten.remove name) :
    (context.note (ContextEntry.ofField name entry value)).overwritten.get? other =
      context.overwritten.get? other := by
  unfold ContextEntry.ofField
  split
  · rw [removes, Entries.get?_remove_of_ne _ apart]
  · rw [removes, Entries.get?_remove_of_ne _ apart]
  · exact Entries.get?_put_of_ne _ _ apart

theorem overwritten_hold (value : Datum) (apart : other ≠ name) :
    (context.hold name value).overwritten.get? other = context.overwritten.get? other := by
  unfold hold
  split
  · exact Entries.get?_remove_of_ne _ apart
  · exact Entries.get?_put_of_ne _ _ apart
  · exact overwritten_note_ofField value apart _ fun _ => rfl
  · exact overwritten_note_ofField value apart _ fun _ => rfl
  · exact Entries.get?_put_of_ne _ _ apart

/-- SQL is never put into its field, but over it. -/
theorem sql_hold (value : Datum) : (context.hold name value).sql = context.sql := by
  unfold hold
  split
  · rfl
  · rfl
  · cases value <;> rfl
  · cases value <;> rfl
  · rfl

theorem address_hold (value : Datum) (apart : "address" ≠ name) :
    (context.hold name value).address = context.address := by
  unfold hold
  split
  · rfl
  · rfl
  · exact absurd rfl apart
  · cases value <;> rfl
  · rfl

theorem operation_hold (value : Datum) (apart : "operation" ≠ name) :
    (context.hold name value).operation = context.operation := by
  unfold hold
  split
  · rfl
  · rfl
  · cases value <;> rfl
  · exact absurd rfl apart
  · rfl

theorem metadata_hold (value : Datum) (apart : "metadata" ≠ name) :
    (context.hold name value).metadata = context.metadata ∧
      (context.hold name value).hasMetadata = context.hasMetadata := by
  unfold hold
  split
  · exact absurd rfl apart
  · exact absurd rfl apart
  · cases value <;> exact ⟨rfl, rfl⟩
  · cases value <;> exact ⟨rfl, rfl⟩
  · exact ⟨rfl, rfl⟩

/-- What is seen of a context that holds a record: what the entry of one name makes, if no other
    entry changes it. -/
theorem read_ofRecord {α : Type} (see : ErrorContext → α) (name : String) (made : Datum → α)
    (here : ∀ context value, see (hold context name value) = made value)
    (elsewhere : ∀ context other value, name ≠ other →
      see (hold context other value) = see context)
    {record : Fields} (once : record.names.Nodup) :
    see (ofRecord record) = ((record.get? name).map made).getD (see { hasMetadata := false }) := by
  have after (context : ErrorContext) : see (record.foldl (fun c e => c.hold e.1 e.2) context) =
      ((record.get? name).map made).getD (see context) := by
    induction record generalizing context with
    | nil => rfl
    | cons e rest ih =>
      obtain ⟨n, value⟩ := e
      rw [Entries.names_cons, List.nodup_cons] at once
      rw [List.foldl_cons, ih once.2, Entries.get?_cons]
      by_cases same : n = name
      · subst same
        rw [if_pos rfl, Entries.get?_eq_none_iff.mpr once.1]
        exact here context value
      · rw [if_neg same]
        dsimp only
        rw [elsewhere context n value (Ne.symm same)]
  exact after _

theorem overwritten_ofRecord {record : Fields} (once : record.names.Nodup) :
    (ofRecord record).overwritten.get? "to_dict" = record.get? "to_dict" := by
  rw [read_ofRecord (fun c => c.overwritten.get? "to_dict") "to_dict" some
    (fun context value => by
      rw [hold_own value (by decide) (by decide) (by decide)]
      exact Entries.get?_put_self ..)
    (fun context other value apart => overwritten_hold value apart) once]
  cases record.get? "to_dict" <;> rfl

theorem sqlEntry_ofRecord {record : Fields} (once : record.names.Nodup) :
    (ofRecord record).sqlEntry = ((record.get? "sql").map sqlOf).getD (.ok none) := by
  refine read_ofRecord sqlEntry "sql" sqlOf (fun context value => ?_)
    (fun context other value apart => ?_) once
  · rw [hold_own value (by decide) (by decide) (by decide), note, sqlEntry, Entries.get?_put_self]
    rfl
  · rw [sqlEntry, sqlEntry, overwritten_hold value apart, sql_hold]

/-- An address or an operation is held so that it shows as what it is. -/
theorem fieldValue?_ofField {entry : Option String → ContextEntry}
    {field : ErrorContext → Option String} (value : Datum)
    (set : ∀ v, field (context.note (entry v)) = v)
    (removes : ∀ v, (context.note (entry v)).overwritten = context.overwritten.remove name) :
    let next := context.note (ContextEntry.ofField name entry value)
    next.fieldValue? name (field next) = fieldOf value := by
  intro next
  have none (v : Option String) : (context.note (entry v)).overwritten.get? name = none := by
    rw [removes, Entries.get?_remove_self]
  cases value with
  | text s =>
    show (context.note (entry (some s))).fieldValue? name
      (field (context.note (entry (some s)))) = _
    rw [fieldValue?, none, set]
    rfl
  | null =>
    show (context.note (entry Option.none)).fieldValue? name
      (field (context.note (entry Option.none))) = _
    rw [fieldValue?, none, set]
    rfl
  | _ =>
    show (context.note (.own name _)).fieldValue? name (field (context.note (.own name _))) = _
    rw [fieldValue?, note, Entries.get?_put_self]
    rfl

theorem address_ofRecord {record : Fields} (once : record.names.Nodup) :
    (ofRecord record).fieldValue? "address" (ofRecord record).address =
      (record.get? "address").bind fieldOf := by
  rw [read_ofRecord (fun c => c.fieldValue? "address" c.address) "address" fieldOf
    (fun context value => fieldValue?_ofField value (fun _ => rfl) fun _ => rfl)
    (fun context other value apart => by
      rw [fieldValue?, fieldValue?, overwritten_hold value apart, address_hold value apart]) once]
  cases record.get? "address" <;> rfl

theorem operation_ofRecord {record : Fields} (once : record.names.Nodup) :
    (ofRecord record).fieldValue? "operation" (ofRecord record).operation =
      (record.get? "operation").bind fieldOf := by
  rw [read_ofRecord (fun c => c.fieldValue? "operation" c.operation) "operation" fieldOf
    (fun context value => fieldValue?_ofField value (fun _ => rfl) fun _ => rfl)
    (fun context other value apart => by
      rw [fieldValue?, fieldValue?, overwritten_hold value apart, operation_hold value apart]) once]
  cases record.get? "operation" <;> rfl

theorem callerEntries_ofRecord {record : Fields} (once : record.names.Nodup) :
    (ofRecord record).callerEntries = ((record.get? "metadata").map callersOf).getD
      (.error (.missingMember kindName "metadata")) := by
  refine read_ofRecord callerEntries "metadata" callersOf (fun context value => ?_)
    (fun context other value apart => ?_) once
  · cases value with
    | record entries =>
      simp only [hold, callerEntries, Entries.get?_remove_self]
      rfl
    | _ =>
      simp only [hold, note, callerEntries, Entries.get?_put_self]
      rfl
  · rw [callerEntries, callerEntries, overwritten_hold value apart, (metadata_hold value apart).1,
      (metadata_hold value apart).2]

/-- **What a context shows is what the record in place of it has.** -/
theorem summary_ofRecord {record : Fields} (once : record.names.Nodup) :
    (ofRecord record).summary = recordSummary record := by
  rw [summary, overwritten_ofRecord once, recordSummary]
  cases record.get? "to_dict" with
  | some value => rfl
  | none =>
    dsimp only
    rw [entries, fieldEntries, sqlEntry_ofRecord once, address_ofRecord once,
      operation_ofRecord once, callerEntries_ofRecord once]
    cases ((record.get? "sql").map sqlOf).getD (.ok none) <;> rfl

end ErrorContext

end SqlRunner
