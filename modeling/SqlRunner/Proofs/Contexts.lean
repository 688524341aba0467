import SqlRunner.ExecutionError
import SqlRunner.Proofs.Records

/-!
# Contexts — what an error's context holds after callers wrote to it

A write goes by its name to one of three places: to a field, to the caller's own entries, or over
something that the context keeps of its own. What a context shows is a function of the name
(`ErrorContext.shown`). One write changes it at one name or, where the name is the context's own,
not at all (`Ordinary.write_takes`), and so after any number of writes each name shows its last
value (`Ordinary.writeAll_shows`).

The summary puts the caller's entries over the fields. That this shadows none of them rests on what
names the entries can have. It is the invariant of every write, `Ordinary`: no entry has the name of
a field or one of the context's own. So the summary has what the context shows
(`Ordinary.entries_shown`).

Where this ends is with the names of the context's own. A few of them take no plain data. The others
take it and show it nowhere, and one of these is the name of the summary, which is gone then. One
takes a record, and with it everything starts anew: what was there before, and what was written
before, is as if it had never been (`ErrorContext.writeAll_replaced`).
-/

set_option autoImplicit false

namespace SqlRunner

namespace ContextEntry

/-- The names of the fields. -/
def fieldNames : List String := ["sql", "address", "operation"]

theorem notMem_ownNames {name : String} (h : name ∈ fieldNames) : name ∉ ownNames := by
  have apart : ∀ name ∈ fieldNames, name ∉ ownNames := by decide
  exact apart name h

end ContextEntry

namespace ErrorContext

open ContextEntry

/-- Names of a context's own that plain data cannot be written to, but for a record to the last. -/
def guardedNames : List String := ["__class__", "__weakref__", "__dict__"]

/-- A record that is put in place of all that the context holds. -/
def Replaces (e : String × Datum) : Prop := ∃ record, e = ("__dict__", .record record)

/-- A value that may be written under a name: strings as SQL, a text or nothing as the address and
    the operation. -/
structure Fits (name : String) (value : Datum) : Prop where
  sql : name = "sql" → ∃ texts : List String, value = .list (texts.map .text)
  field : name = "address" ∨ name = "operation" → value = .null ∨ ∃ s, value = .text s

/-- What a context shows under a name: a field when there is something in it, and otherwise the
    caller's entry. -/
def shown (context : ErrorContext) (name : String) : Option Datum :=
  if name = "sql" then
    if context.sql.isEmpty then none else some (.list (context.sql.map .text))
  else if name = "address" then context.address.map .text
  else if name = "operation" then context.operation.map .text
  else context.metadata.get? name

/-- How a value shows that was written under a name. -/
def shownAs : String → Datum → Option Datum
  | "sql", .list [] => none
  | "address", .null => none
  | "operation", .null => none
  | _, value => some value

theorem shownAs_of_notMem {name : String} (h : name ∉ fieldNames) (value : Datum) :
    shownAs name value = some value := by
  simp only [fieldNames, List.mem_cons, List.not_mem_nil, or_false, not_or] at h
  unfold shownAs
  split
  · exact absurd rfl h.1
  · exact absurd rfl h.2.1
  · exact absurd rfl h.2.2
  · rfl

/-- A context of which nothing was written over but what is its own. -/
structure Ordinary (context : ErrorContext) : Prop where
  place : context.hasMetadata = true
  own : ∀ name ∈ context.overwritten.names, name ∈ ownNames
  callers : ∀ name ∈ context.metadata.names, name ∉ fieldNames ∧ name ∉ ownNames
  once : context.metadata.names.Nodup

/-- What comes of writing a value under a name. A name of the context's own is written over and
    shows nowhere; under another name the value shows, and what stood there before does not. -/
structure Takes (context : ErrorContext) (name : String) (value : Datum) (next : ErrorContext) :
    Prop where
  ordinary : next.Ordinary
  own : name ∈ ownNames → next.overwritten = context.overwritten.put name value ∧
    next.shown = context.shown
  given : name ∉ ownNames → next.overwritten = context.overwritten ∧
    ∀ other, next.shown other = if other = name then shownAs name value else context.shown other

namespace Ordinary

variable {context : ErrorContext}

theorem get?_overwritten (h : context.Ordinary) {name : String} (given : name ∉ ownNames) :
    context.overwritten.get? name = none :=
  Entries.get?_eq_none_iff.mpr fun mem => given (h.own name mem)

theorem remove_overwritten (h : context.Ordinary) {name : String} (field : name ∈ fieldNames) :
    context.overwritten.remove name = context.overwritten :=
  Entries.remove_of_notMem fun mem => notMem_ownNames field (h.own name mem)

/-- Changing the fields keeps a context ordinary. -/
theorem takes_fields (h : context.Ordinary) {name : String} {value : Datum}
    (field : name ∈ fieldNames) (sql : List String) (address operation : Option String)
    (shows : ∀ other,
      { context with sql := sql, address := address, operation := operation }.shown other =
        if other = name then shownAs name value else context.shown other) :
    context.Takes name value
      { context with sql := sql, address := address, operation := operation } where
  ordinary := ⟨h.place, h.own, h.callers, h.once⟩
  own := fun own => absurd own (notMem_ownNames field)
  given := fun _ => ⟨rfl, shows⟩

theorem takes_sql (h : context.Ordinary) (texts : List String) :
    context.Takes "sql" (.list (texts.map .text)) (context.note (.sql texts)) := by
  rw [note, h.remove_overwritten (by decide)]
  refine h.takes_fields (by decide) texts context.address context.operation fun other => ?_
  by_cases same : other = "sql"
  · subst same
    cases texts <;> rfl
  · simp only [shown, if_neg same]

theorem takes_address (h : context.Ordinary) (value : Option String) :
    context.Takes "address" ((value.map .text).getD .null) (context.note (.address value)) := by
  rw [note, h.remove_overwritten (by decide)]
  refine h.takes_fields (by decide) context.sql value context.operation fun other => ?_
  by_cases same : other = "address"
  · subst same
    cases value <;> rfl
  · simp only [shown, if_neg same]

theorem takes_operation (h : context.Ordinary) (value : Option String) :
    context.Takes "operation" ((value.map .text).getD .null)
      (context.note (.operation value)) := by
  rw [note, h.remove_overwritten (by decide)]
  refine h.takes_fields (by decide) context.sql context.address value fun other => ?_
  by_cases same : other = "operation"
  · subst same
    cases value <;> rfl
  · simp only [shown, if_neg same]

/-- What is the context's own shows nowhere. -/
theorem takes_own (h : context.Ordinary) {name : String} (own : name ∈ ownNames) (value : Datum) :
    context.Takes name value (context.note (.own name value)) where
  ordinary := by
    refine ⟨h.place, fun other mem => ?_, h.callers, h.once⟩
    rcases Entries.mem_names_put.mp mem with rfl | before
    · exact own
    · exact h.own other before
  own := fun _ => ⟨rfl, rfl⟩
  given := fun given => absurd own given

/-- An entry of the caller's. -/
theorem takes_extra (h : context.Ordinary) {name : String} (free : name ∉ fieldNames)
    (given : name ∉ ownNames) (value : Datum) :
    context.Takes name value (context.note (.extra name value)) where
  ordinary := by
    refine ⟨h.place, h.own, fun other mem => ?_, Entries.nodup_names_put h.once name value⟩
    rcases Entries.mem_names_put.mp mem with rfl | before
    · exact ⟨free, given⟩
    · exact h.callers other before
  own := fun own => absurd own given
  given := fun _ => by
    refine ⟨rfl, fun other => ?_⟩
    rw [shownAs_of_notMem free]
    simp only [fieldNames, List.mem_cons, List.not_mem_nil, or_false, not_or] at free
    by_cases same : other = name
    · subst same
      simp only [shown, if_neg free.1, if_neg free.2.1, if_neg free.2.2, if_true, note]
      exact Entries.get?_put_self ..
    · rw [if_neg same]
      simp only [shown, note, Entries.get?_put_of_ne _ _ same]
      rfl

end Ordinary

/-! ## Writing -/

theorem mapM_text?_texts (texts : List String) :
    (texts.map Datum.text).mapM Datum.text? = some texts := by
  induction texts with
  | nil => rfl
  | cons s rest ih =>
    rw [List.map_cons, List.mapM_cons, ih]
    rfl

/-- To a name that is guarded nothing can be written but a record in place of everything. -/
theorem write_guarded (context : ErrorContext) {name : String} {value : Datum}
    (guarded : name ∈ guardedNames) (kept : ¬ Replaces (name, value)) :
    ∃ fault, context.write name value = .error fault := by
  simp only [guardedNames, List.mem_cons, List.not_mem_nil, or_false] at guarded
  rcases guarded with rfl | rfl | rfl
  · exact ⟨_, rfl⟩
  · exact ⟨_, rfl⟩
  · cases value with
    | record entries => exact absurd ⟨entries, rfl⟩ kept
    | _ => exact ⟨_, rfl⟩

/-- Other names take the entry that the name and the value make. An entry of the caller's needs a
    place, and goes elsewhere if its name was written over. -/
theorem write_unguarded (context : ErrorContext) {name : String} (value : Datum)
    (unguarded : name ∉ guardedNames) :
    context.write name value = (do
      match ← ofPair name value with
      | .extra _ _ =>
        if name != "metadata" && (context.overwritten.get? name).isSome then
          return context.note (.own name value)
        context.checkMetadata
        return context.note (.extra name value)
      | entry => return context.note entry) := by
  simp only [guardedNames, List.mem_cons, List.not_mem_nil, or_false, not_or] at unguarded
  unfold write
  split
  · exact absurd rfl unguarded.1
  · exact absurd rfl unguarded.2.1
  · exact absurd rfl unguarded.2.2
  · exact absurd rfl unguarded.2.2
  · rfl

namespace Ordinary

variable {context : ErrorContext}

theorem checkMetadata_ok (h : context.Ordinary) : context.checkMetadata = .ok () := by
  have absent := h.get?_overwritten (by decide : "metadata" ∉ ownNames)
  rw [checkMetadata, h.place, absent]
  rfl

/-- **One write.** Whatever fits and is not guarded is written, and shows under its name or, if the
    name is the context's own, nowhere. -/
theorem write_takes (h : context.Ordinary) {name : String} {value : Datum}
    (unguarded : name ∉ guardedNames) (fits : Fits name value) :
    ∃ next, context.write name value = .ok next ∧ context.Takes name value next := by
  have taken {entry : ContextEntry} (made : ofPair name value = .ok entry)
      (kept : ∀ n v, entry ≠ .extra n v) :
      context.write name value = .ok (context.note entry) := by
    rw [write_unguarded context value unguarded, made]
    cases entry with
    | extra n v => exact absurd rfl (kept n v)
    | _ => rfl
  by_cases sql : name = "sql"
  · obtain ⟨texts, rfl⟩ := fits.sql sql
    subst sql
    have made : ofPair "sql" (.list (texts.map .text)) = .ok (.sql texts) := by
      show Except.ok (ofItems (texts.map .text)) = _
      rw [ofItems, mapM_text?_texts]
    exact ⟨_, taken made nofun, h.takes_sql texts⟩
  by_cases address : name = "address"
  · subst address
    rcases fits.field (.inl rfl) with rfl | ⟨s, rfl⟩
    · exact ⟨_, taken rfl nofun, h.takes_address none⟩
    · exact ⟨_, taken rfl nofun, h.takes_address (some s)⟩
  by_cases operation : name = "operation"
  · subst operation
    rcases fits.field (.inr rfl) with rfl | ⟨s, rfl⟩
    · exact ⟨_, taken rfl nofun, h.takes_operation none⟩
    · exact ⟨_, taken rfl nofun, h.takes_operation (some s)⟩
  have free : name ∉ fieldNames := by simp [fieldNames, sql, address, operation]
  by_cases own : name ∈ ownNames
  · have made : ofPair name value = .ok (.own name value) := by
      simp [ofPair, sql, address, operation, own]
    exact ⟨_, taken made nofun, h.takes_own own value⟩
  · have made : ofPair name value = .ok (.extra name value) := by
      simp [ofPair, sql, address, operation, own]
    refine ⟨_, ?_, h.takes_extra free own value⟩
    have absent := h.get?_overwritten own
    rw [write_unguarded context value unguarded, made]
    show (if name != "metadata" && (context.overwritten.get? name).isSome then _ else _) = _
    rw [absent, Option.isSome_none, Bool.and_false, h.checkMetadata_ok]
    rfl

end Ordinary

/-! ## Writes one after another -/

/-- The context after values were written one after another. -/
def writeAll (context : ErrorContext) (writes : Fields) : Except Fault ErrorContext :=
  writes.foldlM (fun c (name, value) => write c name value) context

theorem writeAll_cons (context : ErrorContext) (e : String × Datum) (rest : Fields) :
    context.writeAll (e :: rest) = context.write e.1 e.2 >>= fun c => c.writeAll rest :=
  List.foldlM_cons

theorem writeAll_append (context : ErrorContext) (first second : Fields) :
    context.writeAll (first ++ second) = context.writeAll first >>= fun c => c.writeAll second :=
  List.foldlM_append

/-- How a name shows after some writes: as the last value that was written to it, or as before. -/
def lastShown (context : ErrorContext) (writes : Fields) (name : String) : Option Datum :=
  match Entries.get? writes.reverse name with
  | some value => shownAs name value
  | none => context.shown name

/-- A write that is guarded is refused, whatever was written before. -/
theorem writeAll_guarded {writes : Fields}
    (guarded : ∃ e ∈ writes, e.1 ∈ guardedNames ∧ ¬ Replaces e) (context : ErrorContext) :
    ∃ fault, context.writeAll writes = .error fault := by
  obtain ⟨other, mem, name, kept⟩ := guarded
  induction writes generalizing context with
  | nil => cases mem
  | cons e rest ih =>
    rw [writeAll_cons]
    rcases List.mem_cons.mp mem with rfl | later
    · obtain ⟨fault, refused⟩ := context.write_guarded name kept
      exact ⟨fault, by rw [refused]; rfl⟩
    · cases context.write e.1 e.2 with
      | error fault => exact ⟨fault, rfl⟩
      | ok next => exact ih next later

namespace Takes

variable {context next : ErrorContext} {name : String} {value : Datum}

/-- What is written first shows where nothing is written after it. -/
theorem lastShown_cons (h : context.Takes name value next) (rest : Fields) {other : String}
    (given : other ∉ ownNames) :
    context.lastShown ((name, value) :: rest) other = next.lastShown rest other := by
  rw [lastShown, lastShown, List.reverse_cons, Entries.get?_append, Entries.get?_cons]
  cases Entries.get? rest.reverse other with
  | some later => rfl
  | none =>
    by_cases same : name = other
    · subst same
      rw [if_pos rfl]
      exact (((h.given given).2 name).trans (if_pos rfl)).symm
    · rw [if_neg same]
      show context.shown other = next.shown other
      by_cases own : name ∈ ownNames
      · rw [(h.own own).2]
      · rw [(h.given own).2, if_neg (Ne.symm same)]

theorem mem_overwritten (h : context.Takes name value next) {other : String}
    (own : other ∈ ownNames) :
    other ∈ next.overwritten.names ↔ other = name ∨ other ∈ context.overwritten.names := by
  by_cases named : name ∈ ownNames
  · rw [(h.own named).1, Entries.mem_names_put]
  · have apart : other ≠ name := fun same => named (same ▸ own)
    rw [(h.given named).1, or_iff_right apart]

end Takes

/-- **A run of writes.** What shows is what was written last; and of the context's own names those
    are written over that were written to. -/
theorem Ordinary.writeAll_shows {context : ErrorContext} (h : context.Ordinary) {writes : Fields}
    (unguarded : ∀ e ∈ writes, e.1 ∉ guardedNames) (fits : ∀ e ∈ writes, Fits e.1 e.2) :
    ∃ next, context.writeAll writes = .ok next ∧ next.Ordinary ∧
      (∀ name ∉ ownNames, next.shown name = context.lastShown writes name) ∧
      ∀ name ∈ ownNames, name ∈ next.overwritten.names ↔
        name ∈ writes.names ∨ name ∈ context.overwritten.names := by
  induction writes generalizing context with
  | nil => exact ⟨context, rfl, h, fun _ _ => rfl, fun name _ => (or_iff_right nofun).symm⟩
  | cons e rest ih =>
    obtain ⟨next, written, taken⟩ :=
      h.write_takes (unguarded e List.mem_cons_self) (fits e List.mem_cons_self)
    obtain ⟨last, run, ordinary, shows, lost⟩ := ih taken.ordinary
      (fun e mem => unguarded e (List.mem_cons_of_mem _ mem))
      (fun e mem => fits e (List.mem_cons_of_mem _ mem))
    refine ⟨last, ?_, ordinary, fun name given => ?_, fun name own => ?_⟩
    · rw [writeAll_cons, written]
      exact run
    · rw [shows name given]
      exact (taken.lastShown_cons rest given).symm
    · rw [lost name own, taken.mem_overwritten own, Entries.names_cons, List.mem_cons, or_left_comm,
        or_assoc]

/-- **A record starts everything anew**: what was there and what was written before do not count. -/
theorem writeAll_replaced {context next : ErrorContext} {before : Fields}
    (written : context.writeAll before = .ok next) (record after : Fields) :
    context.writeAll (before ++ ("__dict__", .record record) :: after) =
      (ofRecord record).writeAll after := by
  rw [writeAll_append, written]
  show next.writeAll (("__dict__", .record record) :: after) = _
  rw [writeAll_cons]
  rfl

/-! ## Summaries -/

/-- The three fields, with what shows under them. -/
def fieldPairs (context : ErrorContext) : Entries (Option Datum) :=
  fieldNames.map fun name => (name, context.shown name)

theorem nodup_fieldPairs (context : ErrorContext) : context.fieldPairs.names.Nodup := by
  show ["sql", "address", "operation"].Nodup
  decide

namespace Ordinary

variable {context : ErrorContext}

theorem shown_own (h : context.Ordinary) {name : String} (own : name ∈ ownNames) :
    context.shown name = none := by
  have free : name ∉ fieldNames := fun field => notMem_ownNames field own
  simp only [fieldNames, List.mem_cons, List.not_mem_nil, or_false, not_or] at free
  rw [shown, if_neg free.1, if_neg free.2.1, if_neg free.2.2]
  exact Entries.get?_eq_none_iff.mpr fun mem => (h.callers name mem).2 own

theorem fieldEntries_shown (h : context.Ordinary) :
    context.fieldEntries =
      .ok (context.fieldPairs.filterMap fun (name, value) => value.map (name, ·)) := by
  have sql : context.sqlEntry = .ok (context.shown "sql") := by
    rw [sqlEntry, h.get?_overwritten (by decide)]
    show (if context.sql.isEmpty then _ else _) = Except.ok (if context.sql.isEmpty then _ else _)
    split
    case isTrue => rfl
    case isFalse => rfl
  have address : context.fieldValue? "address" context.address = context.shown "address" := by
    rw [fieldValue?, h.get?_overwritten (by decide)]
    rfl
  have operation : context.fieldValue? "operation" context.operation =
      context.shown "operation" := by
    rw [fieldValue?, h.get?_overwritten (by decide)]
    rfl
  rw [fieldEntries, sql, address, operation]
  rfl

theorem callerEntries_metadata (h : context.Ordinary) :
    context.callerEntries = .ok context.metadata := by
  rw [callerEntries, h.place, h.get?_overwritten (by decide)]
  rfl

/-- **The entries of an ordinary context are what it shows.** -/
theorem entries_shown (h : context.Ordinary) :
    ∃ entries, context.entries = .ok entries ∧ ∀ name, entries.get? name = context.shown name := by
  have merged : context.entries = .ok (Entries.merge
      (context.fieldPairs.filterMap fun (name, value) => value.map (name, ·))
      context.metadata) := by
    rw [entries, h.fieldEntries_shown, h.callerEntries_metadata]
    rfl
  refine ⟨_, merged, fun name => ?_⟩
  rw [Entries.get?_merge, Entries.get?_reverse h.once, Entries.get?_filterMap (nodup_fieldPairs _)]
  by_cases field : name ∈ fieldNames
  · -- an entry of the caller's never has the name of a field
    have alone : context.metadata.get? name = none :=
      Entries.get?_eq_none_iff.mpr fun mem => (h.callers name mem).1 field
    rw [alone, Option.none_or]
    simp only [fieldNames, List.mem_cons, List.not_mem_nil, or_false] at field
    rcases field with rfl | rfl | rfl
    · rfl
    · rfl
    · rfl
  · have absent : context.fieldPairs.get? name = none := Entries.get?_eq_none_iff.mpr field
    simp only [fieldNames, List.mem_cons, List.not_mem_nil, or_false, not_or] at field
    rw [absent, Option.join_none, Option.or_none, shown, if_neg field.1, if_neg field.2.1,
      if_neg field.2.2]

end Ordinary

/-- The summary is that of the entries, unless it was written over itself. -/
theorem summary_eq_entries {context : ErrorContext} (h : "to_dict" ∉ context.overwritten.names) :
    context.summary = context.entries := by
  rw [summary, Entries.get?_eq_none_iff.mpr h]

theorem summary_overwritten {context : ErrorContext} (h : "to_dict" ∈ context.overwritten.names) :
    ∃ fault, context.summary = .error fault := by
  obtain ⟨value, found⟩ := Entries.exists_get?_of_mem h
  exact ⟨.notCallable value.kindName, by rw [summary, found]⟩

end ErrorContext

/-! ## Errors -/

/-- The ways in which an error comes into being. -/
inductive ErrorOrigin where
  | multiStatement (sql : List String) (operation : String)
  | connectionUnavailable (address : Option String)
  | unsupported (message : String) (operation : Option String)
  /-- A fault on the way through the runner. -/
  | translated (fault : Fault) (sql : List String) (address operation : Option String)

/-- The error that comes into being. -/
def ErrorOrigin.error : ErrorOrigin → ExecutionError
  | multiStatement sql operation => .multiStatement sql operation
  | connectionUnavailable address => .connectionUnavailable address
  | unsupported message operation => .unsupported message operation
  | translated fault sql address operation =>
    (Failure.fault fault).asExecution sql address operation

theorem ErrorOrigin.ordinary (origin : ErrorOrigin) : origin.error.context.Ordinary := by
  cases origin <;> exact ⟨rfl, nofun, nofun, List.nodup_nil⟩

namespace ExecutionError

open ErrorContext ContextEntry

/-- The error after calls that add to its context, one after another. -/
def addContexts (error : ExecutionError) (calls : List Fields) : Except Fault ExecutionError :=
  calls.foldlM addContext error

theorem addContexts_cons (error : ExecutionError) (fields : Fields) (rest : List Fields) :
    error.addContexts (fields :: rest) =
      error.addContext fields >>= fun next => next.addContexts rest :=
  List.foldlM_cons

/-- Names that no call takes: that of the call's own argument, and those that are guarded. -/
def refusedNames : List String := "self" :: guardedNames

/-- What no call takes: anything under one of these names, but for a record in place of all that
    the context holds. -/
def Refused (e : String × Datum) : Prop := e.1 ∈ refusedNames ∧ ¬ Replaces e

/-- A call is refused for the name of its own argument, and else does what its writes do. -/
theorem addContext_of_self (error : ExecutionError) {fields : Fields}
    (h : "self" ∈ fields.names) : ∃ fault, error.addContext fields = .error fault := by
  obtain ⟨e, mem, named⟩ := List.mem_map.mp h
  cases clash : fields.checkClash "ExecutionError.with_context" ["self"] with
  | error fault => exact ⟨fault, by rw [addContext, clash]; rfl⟩
  | ok =>
    have absent := Fields.checkClash_eq_ok clash e mem
    rw [named] at absent
    cases absent

theorem addContext_eq (error : ExecutionError) {fields : Fields} (h : "self" ∉ fields.names) :
    error.addContext fields =
      (error.context.writeAll fields).map fun context => { error with context := context } := by
  have clash : fields.checkClash "ExecutionError.with_context" ["self"] = .ok () := by
    have none : fields.clash? ["self"] = none := by
      refine Option.map_eq_none_iff.mpr (List.find?_eq_none.mpr fun e mem same => ?_)
      have named : e.1 = "self" := by simpa using same
      exact h (named ▸ List.mem_map_of_mem mem)
    rw [Fields.checkClash, none]
  rw [addContext, clash]
  show (error.context.writeAll fields >>= fun context => _) = _
  cases error.context.writeAll fields <;> rfl

theorem addContexts_eq (error : ExecutionError) {calls : List Fields}
    (h : ∀ fields ∈ calls, "self" ∉ fields.names) :
    error.addContexts calls = (error.context.writeAll calls.flatten).map fun context =>
      { error with context := context } := by
  induction calls generalizing error with
  | nil => rfl
  | cons fields rest ih =>
    rw [addContexts_cons, addContext_eq error (h fields List.mem_cons_self), List.flatten_cons,
      writeAll_append]
    cases error.context.writeAll fields with
    | error fault => rfl
    | ok context => exact ih _ fun fields mem => h fields (List.mem_cons_of_mem _ mem)

theorem addContext_refused {fields : Fields} (refused : ∃ e ∈ fields, Refused e)
    (error : ExecutionError) : ∃ fault, error.addContext fields = .error fault := by
  by_cases own : "self" ∈ fields.names
  · exact error.addContext_of_self own
  · obtain ⟨e, mem, named, kept⟩ := refused
    have guarded : e.1 ∈ guardedNames := (List.mem_cons.mp named).resolve_left fun same =>
      own (same ▸ List.mem_map_of_mem mem)
    obtain ⟨fault, failed⟩ := writeAll_guarded ⟨e, mem, guarded, kept⟩ error.context
    exact ⟨fault, by rw [addContext_eq error own, failed]; rfl⟩

theorem addContexts_refused {calls : List Fields} (refused : ∃ e ∈ calls.flatten, Refused e)
    (error : ExecutionError) : ∃ fault, error.addContexts calls = .error fault := by
  obtain ⟨e, mem, refused⟩ := refused
  induction calls generalizing error with
  | nil => cases mem
  | cons fields rest ih =>
    rw [List.flatten_cons] at mem
    rw [addContexts_cons]
    cases given : error.addContext fields with
    | error fault => exact ⟨fault, rfl⟩
    | ok next =>
      rcases List.mem_append.mp mem with here | later
      · obtain ⟨fault, failed⟩ := addContext_refused ⟨e, here, refused⟩ error
        rw [given] at failed
        cases failed
      · exact ih next later

/-- Calls that name nothing as their own argument are their writes, one after another. -/
theorem addContexts_eq_writeAll (error : ExecutionError) {calls : List Fields}
    (taken : ∀ e ∈ calls.flatten, ¬ Refused e) :
    error.addContexts calls = (error.context.writeAll calls.flatten).map fun context =>
      { error with context := context } := by
  refine addContexts_eq error fun fields mem named => ?_
  obtain ⟨e, here, same⟩ := List.mem_map.mp named
  refine taken e (List.mem_flatten.mpr ⟨fields, mem, here⟩)
    ⟨same ▸ List.mem_cons_self, fun ⟨record, replaces⟩ => ?_⟩
  subst replaces
  exact absurd same (show "__dict__" ≠ "self" by decide)

/-- What an error tells a log: the summary of its context, when there is something in it. -/
theorem summary_of_context {error : ExecutionError} {entries : Fields}
    (h : error.context.summary = .ok entries) :
    ∃ report, error.summary = .ok report ∧
      report.get? "context" = if entries.isEmpty then none else some (.record entries) := by
  rw [summary, h]
  refine ⟨_, rfl, ?_⟩
  rw [Entries.get?_append, Entries.get?_append]
  by_cases empty : entries.isEmpty
  · rw [if_pos empty, if_pos empty]
    cases error.cause <;> rfl
  · rw [if_neg empty, if_neg empty]
    rfl

theorem summary_of_error {error : ExecutionError} {fault : Fault}
    (h : error.context.summary = .error fault) : error.summary = .error fault := by
  rw [summary, h]
  rfl

/-- **What callers add to an error.** Take an error, however it came into being, and any calls that
    add to its context, each with any names: strings as SQL, a text or nothing as the address and
    the operation, anything under any other name. If one of the writes is refused, so are the calls.

    If no name is one of the refused, the calls are taken, and message, kind and cause stay. If
    `to_dict` is none of the names, the context and the error have their summaries. Under a name
    that is not the context's own, the one of the context has the last value that was written there,
    or else what it had before, and leaves out no more than SQL without strings and an address or an
    operation that is nothing. Under a name of the context's own it has nothing, whatever was
    written there. And if `to_dict` is one of the names, neither the context nor the error has a
    summary.

    What is left are calls with a record in place of all that the context holds. They do what the
    writes behind the record do to a context that holds the record and nothing else, and what such a
    context shows is the summary of the record: nothing of what the error began with counts, nor of
    what was written before. -/
theorem addContexts_lastWrites (origin : ErrorOrigin) (calls : List Fields)
    (fits : ∀ e ∈ calls.flatten, Fits e.1 e.2) :
    ((∃ e ∈ calls.flatten, Refused e) →
      ∃ fault, origin.error.addContexts calls = .error fault) ∧
    ((∀ e ∈ calls.flatten, e.1 ∉ refusedNames) →
      ∃ error, origin.error.addContexts calls = .ok error ∧
        error.message = origin.error.message ∧ error.kind = origin.error.kind ∧
        error.cause = origin.error.cause ∧
        ("to_dict" ∈ Entries.names calls.flatten →
          ∃ fault, error.context.summary = .error fault ∧ error.summary = .error fault) ∧
        ("to_dict" ∉ Entries.names calls.flatten →
          ∃ entries report, error.context.summary = .ok entries ∧ error.summary = .ok report ∧
            report.get? "context" = (if entries.isEmpty then none else some (.record entries)) ∧
            ∀ name, entries.get? name =
              if name ∈ ownNames then none
              else origin.error.context.lastShown calls.flatten name)) ∧
    (∀ before record after, calls.flatten = before ++ ("__dict__", .record record) :: after →
      (∀ e ∈ before, e.1 ∉ refusedNames) → (∀ e ∈ after, ¬ Refused e) →
        origin.error.addContexts calls =
          ((ErrorContext.ofRecord record).writeAll after).map (fun context =>
            { origin.error with context := context }) ∧
        (record.names.Nodup →
          (ErrorContext.ofRecord record).summary = ErrorContext.recordSummary record)) := by
  refine ⟨fun refused => addContexts_refused refused origin.error, fun taken => ?_,
    fun before record after split taken later => ⟨?_, fun once => summary_ofRecord once⟩⟩
  · have unguarded : ∀ e ∈ calls.flatten, e.1 ∉ guardedNames := fun e mem guarded =>
      taken e mem (List.mem_cons_of_mem _ guarded)
    obtain ⟨context, written, ordinary, shows, lost⟩ :=
      origin.ordinary.writeAll_shows unguarded fits
    have lost := lost "to_dict" (by decide)
    have fresh : "to_dict" ∉ origin.error.context.overwritten.names := by
      cases origin <;> exact nofun
    rw [or_iff_left fresh] at lost
    refine ⟨{ origin.error with context := context }, ?_, rfl, rfl, rfl, fun own => ?_,
      fun own => ?_⟩
    · rw [addContexts_eq_writeAll origin.error fun e mem refused => taken e mem refused.1, written]
      rfl
    · obtain ⟨fault, failed⟩ := summary_overwritten (lost.mpr own)
      exact ⟨fault, failed, summary_of_error failed⟩
    · obtain ⟨entries, read, found⟩ := ordinary.entries_shown
      have summarized := (summary_eq_entries fun there => own (lost.mp there)).trans read
      obtain ⟨report, told, within⟩ := @summary_of_context { origin.error with context := context }
        entries summarized
      refine ⟨entries, report, summarized, told, within, fun name => ?_⟩
      rw [found]
      split
      case isTrue own => exact ordinary.shown_own own
      case isFalse given => exact shows name given
  · have unrefused : ∀ e ∈ calls.flatten, ¬ Refused e := by
      intro e mem refused
      rw [split, List.mem_append, List.mem_cons] at mem
      rcases mem with here | rfl | here
      · exact taken e here refused.1
      · exact refused.2 ⟨record, rfl⟩
      · exact later e here refused
    -- what comes before the record is taken, whatever becomes of it
    obtain ⟨context, written, -⟩ := origin.ordinary.writeAll_shows
      (fun e mem guarded => taken e mem (List.mem_cons_of_mem _ guarded))
      (fun e mem => fits e (split ▸ List.mem_append_left _ mem))
    rw [addContexts_eq_writeAll origin.error unrefused, split, writeAll_replaced written]

/-- Two calls: SQL is taken away and so is the address, an entry is written twice, another has the
    name of the place where entries are kept, and one goes to a name of the context's own. -/
theorem addContexts_lastWrites_twice :
    let origin := ErrorOrigin.translated (.driver "locked") ["SELECT 1"] (some "db://x")
      (some "query")
    ∃ error entries, origin.error.addContexts
        [[("sql", .list []), ("changeset", .int 7), ("__doc__", .text "x")],
          [("address", .null), ("metadata", .text "m"), ("changeset", .int 8)]] = .ok error ∧
      error.message = "Error executing SQL SELECT 1: locked" ∧
      error.context.summary = .ok entries ∧
      entries.get? "sql" = none ∧ entries.get? "address" = none ∧
      entries.get? "operation" = some (.text "query") ∧
      entries.get? "changeset" = some (.int 8) ∧ entries.get? "metadata" = some (.text "m") ∧
      entries.get? "__doc__" = none := by
  intro origin
  let calls : List Fields :=
    [[("sql", .list []), ("changeset", .int 7), ("__doc__", .text "x")],
      [("address", .null), ("metadata", .text "m"), ("changeset", .int 8)]]
  have fits : ∀ e ∈ calls.flatten, Fits e.1 e.2 := by
    intro e mem
    simp only [calls, List.flatten_cons, List.flatten_nil, List.cons_append, List.nil_append,
      List.mem_cons, List.not_mem_nil, or_false] at mem
    rcases mem with rfl | rfl | rfl | rfl | rfl | rfl <;> constructor <;> simp
  obtain ⟨-, taken, -⟩ := addContexts_lastWrites origin calls fits
  obtain ⟨error, given, message, -, -, -, rest⟩ := taken (by decide)
  obtain ⟨entries, report, summary, -, -, found⟩ := rest (by decide)
  exact ⟨error, entries, given, message, summary, found "sql", found "address", found "operation",
    found "changeset", found "metadata", found "__doc__"⟩

/-- **An entry may take the summary away.** -/
theorem addContexts_losesSummary :
    ∃ error, (ErrorOrigin.unsupported "m" none).error.addContexts [[("to_dict", .int 1)]] =
        .ok error ∧
      error.context.summary = .error (.notCallable "int") ∧
      error.summary = .error (.notCallable "int") :=
  ⟨_, rfl, rfl, rfl⟩

end ExecutionError

end SqlRunner
