import SqlRunner.Connection
import SqlRunner.Proofs.Account

/-!
# Accounts of what is done on a handle

A step on a handle is accounted for as a step of a session is, only that it starts from a handle and
leaves one. `Stint` is the account together with the handle that is left, and `HandleStep.Local` is
the class of the steps that have one. Everything a handle can do is such a step; below, each of the
handle's operations gets its stint in closed form, and nobody after this file has to open one.

What a handle writes into the journal depends on what is behind it, so the entries are functions on
`Backing`: they are named after the operations.
-/

set_option autoImplicit false

namespace SqlRunner

variable {α β : Type} {shape : Shape}

/-- What a step on a handle does, and the handle it leaves. -/
structure Stint (shape : Shape) (α : Type) extends Account α where
  handle : Handle shape

namespace Stint

/-- One stint after another: the second starts from the answer and the handle of the first. -/
def bind (first : Stint shape α) (next : α → Handle shape → Stint shape β) : Stint shape β :=
  match first.outcome with
  | .error failure => ⟨⟨.error failure, first.entries, first.events⟩, first.handle⟩
  | .ok value =>
    let second := next value first.handle
    ⟨⟨second.outcome, first.entries ++ second.entries, first.events ++ second.events⟩,
      second.handle⟩

theorem bind_of_ok {first : Stint shape α} {next : α → Handle shape → Stint shape β} {value : α}
    (h : first.outcome = .ok value) :
    first.bind next =
      ⟨⟨(next value first.handle).outcome, first.entries ++ (next value first.handle).entries,
        first.events ++ (next value first.handle).events⟩, (next value first.handle).handle⟩ := by
  simp only [Stint.bind, h]

theorem bind_of_error {first : Stint shape α} {next : α → Handle shape → Stint shape β}
    {failure : Failure} (h : first.outcome = .error failure) :
    first.bind next = ⟨⟨.error failure, first.entries, first.events⟩, first.handle⟩ := by
  simp only [Stint.bind, h]

theorem ok_bind (value : α) (entries : List Entry) (events : List Event) (h : Handle shape)
    (next : α → Handle shape → Stint shape β) :
    (⟨⟨.ok value, entries, events⟩, h⟩ : Stint shape α).bind next =
      ⟨⟨(next value h).outcome, entries ++ (next value h).entries,
        events ++ (next value h).events⟩, (next value h).handle⟩ := rfl

end Stint

namespace HandleStep

/-- Running two steps on a handle in a row. -/
theorem run_bind (step : HandleStep shape α) (next : α → HandleStep shape β) (h : Handle shape)
    (w : World) :
    (step >>= next).run.run h w =
      match step.run.run h w with
      | ((.ok value, left), after) => (next value).run.run left after
      | ((.error failure, left), after) => ((.error failure, left), after) := by
  show ((ExceptT.run (ExceptT.bind step next)).run h) w = _
  simp only [ExceptT.run, ExceptT.bind, ExceptT.mk, Bind.bind, StateT.bind, StateT.run]
  rcases step h w with ⟨⟨outcome, left⟩, after⟩
  cases outcome <;> rfl

/-- The stints of a step, from every handle and under every behavior. -/
def Does (step : HandleStep shape α) (acc : Handle shape → Behavior → Stint shape α) : Prop :=
  ∀ (h : Handle shape) (w : World), step.run.run h w =
    (((acc h w.behavior).outcome, (acc h w.behavior).handle),
      w.after (acc h w.behavior).toAccount)

/-- The stint of a step from a handle, read off a run in a world where nothing has happened. -/
def stint (step : HandleStep shape α) (h : Handle shape) (b : Behavior) : Stint shape α :=
  let ((outcome, left), w) := step.run.run h { behavior := b }
  ⟨⟨outcome, w.journal, w.trace.events⟩, left⟩

/-- A step that reads the handle and the behavior, and only adds to the rest of the world. -/
class Local (step : HandleStep shape α) : Prop where
  does : step.Does step.stint

theorem Does.stint_eq {step : HandleStep shape α} {acc : Handle shape → Behavior → Stint shape α}
    (h : step.Does acc) : step.stint = acc := by
  funext handle b
  simp only [stint, h handle { behavior := b }, World.after_fresh]

theorem Does.local {step : HandleStep shape α} {acc : Handle shape → Behavior → Stint shape α}
    (h : step.Does acc) : step.Local :=
  ⟨h.stint_eq ▸ h⟩

theorem Does.bind {step : HandleStep shape α} {next : α → HandleStep shape β}
    {acc : Handle shape → Behavior → Stint shape α}
    {accNext : α → Handle shape → Behavior → Stint shape β} (hs : step.Does acc)
    (hn : ∀ value, (next value).Does (accNext value)) :
    (step >>= next).Does
      fun h b => (acc h b).bind fun value left => accNext value left b := by
  intro handle w
  rw [run_bind, hs handle w]
  cases h : (acc handle w.behavior).outcome with
  | error failure =>
    simp only [Stint.bind_of_error h]
    exact congrArg _ (World.after_congr rfl rfl)
  | ok value =>
    simp only [hn value (acc handle w.behavior).handle (w.after _), World.after_behavior,
      Stint.bind_of_ok h]
    simp only [World.after, List.append_assoc, List.foldl_append]

/-! ## The steps that others are built from -/

theorem pure_does (value : α) :
    (pure value : HandleStep shape α).Does fun h _ => ⟨⟨.ok value, [], []⟩, h⟩ := by
  intro h w
  simp only [World.after, List.append_nil, List.foldl_nil]
  rfl

theorem throw_does (failure : Failure) :
    (throw failure : HandleStep shape α).Does fun h _ => ⟨⟨.error failure, [], []⟩, h⟩ := by
  intro h w
  simp only [World.after, List.append_nil, List.foldl_nil]
  rfl

theorem get_does :
    (get : HandleStep shape (Handle shape)).Does fun h _ => ⟨⟨.ok h, [], []⟩, h⟩ := by
  intro h w
  simp only [World.after, List.append_nil, List.foldl_nil]
  rfl

theorem modify_does (change : Handle shape → Handle shape) :
    (modify change : HandleStep shape PUnit).Does
      fun h _ => ⟨⟨.ok ⟨⟩, [], []⟩, change h⟩ := by
  intro h w
  simp only [World.after, List.append_nil, List.foldl_nil]
  rfl

/-- A step of the session leaves the handle as it is. -/
theorem lift_does {step : Session α} {acc : Behavior → Account α} (hs : step.Does acc) :
    (liftM step : HandleStep shape α).Does fun h b => ⟨acc b, h⟩ := by
  intro h w
  show HandleStep.ofSession step h w = _
  simp only [ofSession, ExceptT.mk, hs w]

instance local_pure (value : α) : (pure value : HandleStep shape α).Local :=
  (pure_does value).local

instance local_throw (failure : Failure) : (throw failure : HandleStep shape α).Local :=
  (throw_does failure).local

instance local_get : (get : HandleStep shape (Handle shape)).Local := get_does.local

instance local_modify (change : Handle shape → Handle shape) :
    (modify change : HandleStep shape PUnit).Local := (modify_does change).local

instance local_lift (step : Session α) [h : step.Local] :
    (liftM step : HandleStep shape α).Local := (lift_does h.does).local

theorem Local.bind {step : HandleStep shape α} {next : α → HandleStep shape β}
    (hs : step.Local) (hn : ∀ value, (next value).Local) : (step >>= next).Local :=
  (hs.does.bind fun value => (hn value).does).local

/-- How a local step of the session runs while a handle is held. -/
theorem run_lift (step : Session α) [hs : step.Local] (h : Handle shape) (w : World) :
    (liftM step : HandleStep shape α).run.run h w =
      (((step.account w.behavior).outcome, h), w.after (step.account w.behavior)) :=
  lift_does hs.does h w

instance local_bind (step : HandleStep shape α) (next : α → HandleStep shape β)
    [hs : step.Local] [hn : ∀ value, (next value).Local] : (step >>= next).Local := hs.bind hn

instance local_ite (p : Prop) [Decidable p] (yes no : HandleStep shape α) [yes.Local]
    [no.Local] : (if p then yes else no).Local := by
  split <;> infer_instance

/-! ## Their stints -/

@[simp] theorem stint_pure (value : α) (h : Handle shape) (b : Behavior) :
    (pure value : HandleStep shape α).stint h b = ⟨⟨.ok value, [], []⟩, h⟩ :=
  congrFun (congrFun (pure_does value).stint_eq h) b

@[simp] theorem stint_throw (failure : Failure) (h : Handle shape) (b : Behavior) :
    (throw failure : HandleStep shape α).stint h b = ⟨⟨.error failure, [], []⟩, h⟩ :=
  congrFun (congrFun (throw_does failure).stint_eq h) b

@[simp] theorem stint_get (h : Handle shape) (b : Behavior) :
    (get : HandleStep shape (Handle shape)).stint h b = ⟨⟨.ok h, [], []⟩, h⟩ :=
  congrFun (congrFun get_does.stint_eq h) b

@[simp] theorem stint_lift (step : Session α) [hs : step.Local] (h : Handle shape)
    (b : Behavior) :
    (liftM step : HandleStep shape α).stint h b = ⟨step.account b, h⟩ :=
  congrFun (congrFun (lift_does hs.does).stint_eq h) b

theorem stint_bind (step : HandleStep shape α) (next : α → HandleStep shape β)
    [hs : step.Local] [hn : ∀ value, (next value).Local] (h : Handle shape) (b : Behavior) :
    (step >>= next).stint h b =
      (step.stint h b).bind fun value left => (next value).stint left b :=
  congrFun (congrFun (hs.does.bind fun value => (hn value).does).stint_eq h) b

/-! Steps that only look around, or only change the handle, disappear from a stint. What comes
after them need not be local for that. -/

theorem stint_get_bind (next : Handle shape → HandleStep shape β) (h : Handle shape)
    (b : Behavior) : (get >>= next).stint h b = (next h).stint h b := rfl

theorem stint_modify_bind (change : Handle shape → Handle shape)
    (next : PUnit → HandleStep shape β) (h : Handle shape) (b : Behavior) :
    (modify change >>= next).stint h b = (next ⟨⟩).stint (change h) b := rfl

theorem stint_behavior_bind (next : Behavior → HandleStep shape β) (h : Handle shape)
    (b : Behavior) : (liftM Session.behavior >>= next).stint h b = (next b).stint h b := rfl

end HandleStep

/-! ## Cursors -/

namespace Cursor

/-- What closing a cursor writes. A view leaves that to the handle. -/
def closing : Cursor → List Entry
  | scripted => [.closed .cursor]
  | view _ => []

/-- The failure to close a cursor. -/
def closeFailure? (b : Behavior) : Cursor → Option Failure
  | scripted => b.closeFailure? .cursor
  | view _ => none

/-- What is read from a cursor. It does not depend on which handle gave it. -/
def reading (b : Behavior) : Except Failure QueryResult :=
  match b.fetchFailure? with
  | some failure => .error failure
  | none => (QueryResult.ofCursor b.columns b.rows).mapError Failure.fault

instance local_description (c : Cursor) : c.description.Local :=
  inferInstanceAs (Session.behavior >>= fun b => pure b.columns).Local

instance local_fetchAll (c : Cursor) : c.fetchAll.Local := by
  unfold fetchAll
  infer_instance

instance local_close (c : Cursor) : c.close.Local := by
  unfold close
  split <;> infer_instance

instance local_materialize (c : Cursor) : c.materialize.Local := by
  unfold materialize
  infer_instance

theorem close_account (c : Cursor) (b : Behavior) :
    c.close.account b = .closing (c.closeFailure? b) c.closing := by
  cases c with
  | view _ => exact Session.account_pure () b
  | scripted =>
    simp only [close, Session.account_bind, Session.account_write, Session.account_behavior,
      Session.account_failIf, Account.ok_bind, closeFailure?]
    cases b.closeFailure? .cursor with
    | none => rfl
    | some failure => rfl

/-- **A result is read, and the cursor is closed whatever comes of it.** -/
theorem materialize_account (c : Cursor) (b : Behavior) :
    c.materialize.account b =
      ⟨reading b, c.closing, ((Session.release c.close).account b).events⟩ := by
  rw [materialize, Session.account_thenRelease, close_account, Account.closing]
  simp only [description, fetchAll, reading, Session.account_bind, Session.account_behavior,
    Session.account_pure, Session.account_failIf, Session.account_ofFault, Account.ok_bind]
  cases b.fetchFailure? with
  | none => rfl
  | some failure => rfl

end Cursor

/-! ## Operations of handles -/

namespace Backing

/-- What running SQL through a plain handle writes. -/
def ran (verb : Verb) (sql : String) : Backing → Entry
  | scripted => .ran verb sql
  | cursor _ _ => .cursorRan sql none

/-- What switching the escape mode writes. -/
def escapes (enabled : Bool) (b : Behavior) : Backing → List Entry
  | scripted => [.escapes enabled]
  | cursor _ _ => if b.takesEscapes then [.cursorEscapes enabled] else []

/-- What binding parameters writes. -/
def bound (parameters : List Datum) : Backing → List Entry
  | scripted => [.bound parameters]
  | cursor _ _ => []

/-- The failure to bind parameters. -/
def bindFailure? (b : Behavior) : Backing → Option Failure
  | scripted => b.bindFailure?
  | cursor _ _ => none

/-- What running a bound template writes. -/
def ranPrepared (verb : Verb) (sql : String) (parameters : List Datum) : Backing → Entry
  | scripted => .ranPrepared verb sql parameters
  | cursor style _ => .cursorRan sql (some (Marker.bind parameters style))

/-- The count that is reported of a write. -/
def count (b : Behavior) : Backing → Option Int
  | scripted => b.updateCount
  | cursor _ rowCount => rowCount

end Backing

namespace Handle

/-- What the handle is to its driver: a raw cursor, or the handle itself. -/
def resource (h : Handle shape) : Resource :=
  match h.backing with
  | .scripted => shape.resource
  | .cursor _ _ => .cursor

/-- Whether closing the handle reaches the driver. -/
def closes (h : Handle shape) : Bool :=
  match h.backing with
  | .scripted => true
  | .cursor _ _ => !h.closed

/-- What closing the handle writes. -/
def closing (h : Handle shape) : List Entry := if h.closes then [.closed h.resource] else []

theorem closing_congr {h left : Handle shape} (backing : left.backing = h.backing)
    (closed : left.closed = h.closed) : left.closing = h.closing := by
  obtain ⟨was, _, _, _, open'⟩ := h
  obtain ⟨is, _, _, _, open''⟩ := left
  cases backing
  cases closed
  rfl

/-- The failure to close the handle. -/
def closeFailure? (b : Behavior) (h : Handle shape) : Option Failure :=
  if h.closes then b.closeFailure? h.resource else none

/-- The stint of one request to the driver, from a handle that it leaves as it is. -/
def request (h : Handle shape) (refusal? : Option Failure) (answer : α) (entries : List Entry) :
    Stint shape α :=
  ⟨.request refusal? answer entries, h⟩

instance local_checkSql (sql : String) : (checkSql sql).Local := by
  unfold checkSql
  infer_instance

theorem checkSql_account (sql : String) (b : Behavior) :
    (checkSql sql).account b = .request (b.refusal? sql) () [] := by
  simp only [checkSql, Session.account_bind, Session.account_behavior, Session.account_failIf,
    Account.ok_bind]

instance local_countOf (backing : Backing) : (countOf backing).Local := by
  unfold countOf
  split <;> infer_instance

theorem countOf_account (backing : Backing) (b : Behavior) :
    (countOf backing).account b = ⟨.ok (backing.count b), [], []⟩ := by
  cases backing with
  | scripted =>
    simp only [countOf, Backing.count, Session.account_bind, Session.account_behavior,
      Session.account_pure, Account.ok_bind]
  | cursor style rowCount => exact Session.account_pure rowCount b

/-- SQL is looked at before anything else is done with it. -/
theorem checkSql_bind_stint (sql : String) (next : Unit → HandleStep shape β) (h : Handle shape)
    (b : Behavior) :
    (liftM (checkSql sql) >>= next).stint h b =
      match b.refusal? sql with
      | some failure => ⟨⟨.error failure, [], []⟩, h⟩
      | none => (next ()).stint h b := by
  simp only [HandleStep.stint, HandleStep.run_bind, HandleStep.run_lift, checkSql_account]
  cases b.refusal? sql with
  | some failure => rfl
  | none => rfl

instance local_runPlain (verb : Verb) (sql : String) : (runPlain verb sql).Local :=
  .bind inferInstance fun _ => .bind inferInstance fun h => by
    split <;> infer_instance

theorem runPlain_stint (verb : Verb) (sql : String) (h : Handle .plain) (b : Behavior) :
    (runPlain verb sql).stint h b =
      h.request (b.refusal? sql) () [h.backing.ran verb sql] := by
  rw [runPlain, checkSql_bind_stint]
  rcases h with ⟨_ | ⟨style, count⟩, template, parameters, mode, closed⟩
  · cases b.refusal? sql <;> rfl
  · cases b.refusal? sql <;> rfl

instance local_query (sql : String) : (query sql).Local := by
  unfold query
  infer_instance

theorem query_stint (sql : String) (h : Handle .plain) (b : Behavior) :
    (query sql).stint h b =
      h.request (b.refusal? sql) (cursorOf h.backing) [h.backing.ran .query sql] := by
  rw [query, HandleStep.stint_bind, runPlain_stint, request]
  cases b.refusal? sql with
  | some failure => rfl
  | none => rfl

instance local_execute (sql : String) : (execute sql).Local :=
  inferInstanceAs (runPlain .execute sql).Local

theorem execute_stint (sql : String) (h : Handle .plain) (b : Behavior) :
    (execute sql).stint h b =
      h.request (b.refusal? sql) () [h.backing.ran .execute sql] := runPlain_stint .execute sql h b

instance local_update (sql : String) : (update sql).Local := by
  unfold update
  infer_instance

theorem update_stint (sql : String) (h : Handle .plain) (b : Behavior) :
    (update sql).stint h b =
      h.request (b.refusal? sql) (h.backing.count b) [h.backing.ran .update sql] := by
  rw [update, HandleStep.stint_bind, runPlain_stint, request]
  cases b.refusal? sql with
  | some failure => rfl
  | none =>
    rw [Account.request_none, Stint.bind_of_ok rfl, HandleStep.stint_get_bind,
      HandleStep.stint_lift, countOf_account]
    rfl

instance local_setEscapeProcessing (enabled : Bool) : (setEscapeProcessing enabled).Local :=
  .bind inferInstance fun _ => .bind inferInstance fun h => by
    split <;> infer_instance

theorem setEscapeProcessing_stint (enabled : Bool) (h : Handle .plain) (b : Behavior) :
    (setEscapeProcessing enabled).stint h b =
      { h with escapeProcessing := enabled }.request none () (h.backing.escapes enabled b) := by
  rw [setEscapeProcessing, HandleStep.stint_modify_bind, HandleStep.stint_get_bind]
  rcases h with ⟨_ | ⟨style, count⟩, template, parameters, mode, closed⟩
  · rfl
  · show HandleStep.stint (liftM Session.behavior >>= _) _ b = _
    rw [HandleStep.stint_behavior_bind]
    cases hb : b.takesEscapes with
    | false => simp only [Backing.escapes, hb]; rfl
    | true => simp only [Backing.escapes, hb]; rfl

instance local_bind (parameters : List Datum) : (bind parameters : HandleStep shape Unit).Local :=
  .bind inferInstance fun _ => .bind inferInstance fun h => by
    split <;> infer_instance

theorem bind_stint (parameters : List Datum) (h : Handle shape) (b : Behavior) :
    (bind parameters).stint h b =
      { h with parameters := parameters }.request (h.backing.bindFailure? b) ()
        (h.backing.bound parameters) := by
  rw [bind, HandleStep.stint_modify_bind, HandleStep.stint_get_bind]
  rcases h with ⟨_ | ⟨style, count⟩, template, before, mode, closed⟩
  · show HandleStep.stint (liftM Session.behavior >>= _) _ b = _
    rw [HandleStep.stint_behavior_bind]
    -- the handle remembers its parameters before the driver is asked, refused or not
    cases hb : b.bindFailure? with
    | none => simp only [Backing.bindFailure?, hb]; rfl
    | some failure => simp only [Backing.bindFailure?, hb]; rfl
  · rfl

instance local_runPrepared (verb : Verb) : (runPrepared verb).Local :=
  .bind inferInstance fun h => .bind inferInstance fun _ => by
    split <;> infer_instance

theorem runPrepared_stint (verb : Verb) (h : Handle .prepared) (b : Behavior) :
    (runPrepared verb).stint h b =
      h.request (b.refusal? h.sql) () [h.backing.ranPrepared verb h.sql h.parameters] := by
  rw [runPrepared, HandleStep.stint_get_bind, checkSql_bind_stint]
  rcases h with ⟨_ | ⟨style, count⟩, template, parameters, mode, closed⟩
  · cases b.refusal? template <;> rfl
  · cases b.refusal? template <;> rfl

instance local_executePrepared : executePrepared.Local :=
  inferInstanceAs (runPrepared .execute).Local

theorem executePrepared_stint (h : Handle .prepared) (b : Behavior) :
    executePrepared.stint h b =
      h.request (b.refusal? h.sql) () [h.backing.ranPrepared .execute h.sql h.parameters] :=
  runPrepared_stint .execute h b

instance local_queryPrepared : queryPrepared.Local := by
  unfold queryPrepared
  infer_instance

theorem queryPrepared_stint (h : Handle .prepared) (b : Behavior) :
    queryPrepared.stint h b =
      h.request (b.refusal? h.sql) (cursorOf h.backing)
        [h.backing.ranPrepared .query h.sql h.parameters] := by
  rw [queryPrepared, HandleStep.stint_bind, runPrepared_stint, request]
  cases b.refusal? h.sql with
  | some failure => rfl
  | none => rfl

instance local_updatePrepared : updatePrepared.Local := by
  unfold updatePrepared
  infer_instance

theorem updatePrepared_stint (h : Handle .prepared) (b : Behavior) :
    updatePrepared.stint h b =
      h.request (b.refusal? h.sql) (h.backing.count b)
        [h.backing.ranPrepared .update h.sql h.parameters] := by
  rw [updatePrepared, HandleStep.stint_bind, runPrepared_stint, request]
  cases b.refusal? h.sql with
  | some failure => rfl
  | none =>
    rw [Account.request_none, Stint.bind_of_ok rfl, HandleStep.stint_get_bind,
      HandleStep.stint_lift, countOf_account]
    rfl

instance local_call : call.Local := by
  refine .bind inferInstance fun h => ?_
  split
  · infer_instance
  · refine .bind inferInstance fun b => ?_
    dsimp only
    split <;> infer_instance

theorem call_stint_scripted (h : Handle .callable) (b : Behavior) (hb : h.backing = .scripted) :
    call.stint h b =
      h.request (b.refusal? h.sql) (.list (.text "out" :: h.parameters))
        [.called h.sql h.parameters] := by
  obtain ⟨backing, template, parameters, mode, closed⟩ := h
  cases hb
  rw [call, HandleStep.stint_get_bind]
  show HandleStep.stint (liftM (checkSql template) >>= _) _ b = _
  rw [checkSql_bind_stint]
  cases b.refusal? template with
  | some failure => rfl
  | none => rfl

/-- The procedure that a call on a raw cursor is made by, where the driver can make it so. -/
def calledByName? (b : Behavior) (h : Handle .callable) : Option String :=
  if b.callsByName then CallTarget.target? h.sql h.parameters.length else none

/-- What a call on a raw cursor looks at first is whether it can be made by name. -/
theorem call_stint_cursor_eq (h : Handle .callable) (b : Behavior) {style : MarkerStyle}
    {rowCount : Option Int} (hb : h.backing = .cursor style rowCount) :
    call.stint h b = HandleStep.stint
      (match h.calledByName? b with
      | some name => do
        checkSql name
        Session.write (.cursorCalled name h.parameters)
        return .list h.parameters
      | none => do
        let sql ← (Session.ofFault (Marker.respell h.sql style) : Session String)
        checkSql sql
        Session.write (.cursorRan sql (some (Marker.bind h.parameters style)))
        return .cursor .raw) h b := by
  obtain ⟨backing, template, parameters, mode, closed⟩ := h
  cases hb
  rfl

/-- A call by name is one request, and its text is of no account. -/
theorem call_stint_named (h : Handle .callable) (b : Behavior) {style : MarkerStyle}
    {rowCount : Option Int} (hb : h.backing = .cursor style rowCount) {name : String}
    (hn : h.calledByName? b = some name) :
    call.stint h b =
      h.request (b.refusal? name) (.list h.parameters) [.cursorCalled name h.parameters] := by
  rw [call_stint_cursor_eq h b hb, hn]
  dsimp only
  rw [checkSql_bind_stint]
  cases b.refusal? name with
  | some failure => rfl
  | none => rfl

/-- A call by its text is respelled first, and run with arguments after that. -/
theorem call_stint_text (h : Handle .callable) (b : Behavior) {style : MarkerStyle}
    {rowCount : Option Int} (hb : h.backing = .cursor style rowCount)
    (hn : h.calledByName? b = none) :
    call.stint h b =
      match Marker.respell h.sql style with
      | .error fault => ⟨⟨.error (.fault fault), [], []⟩, h⟩
      | .ok sql => h.request (b.refusal? sql) (.cursor .raw)
          [.cursorRan sql (some (Marker.bind h.parameters style))] := by
  rw [call_stint_cursor_eq h b hb, hn]
  dsimp only
  cases Marker.respell h.sql style with
  | error fault => rfl
  | ok sql =>
    show HandleStep.stint (liftM (checkSql sql) >>= _) _ b = h.request (b.refusal? sql) _ _
    rw [checkSql_bind_stint]
    cases b.refusal? sql with
    | some failure => rfl
    | none => rfl

/-- On a raw cursor a call is one request too: by name, or as text with arguments. What it is
    depends on the driver. -/
theorem call_stint_cursor (h : Handle .callable) (b : Behavior) {style : MarkerStyle}
    {rowCount : Option Int} (hb : h.backing = .cursor style rowCount) :
    ∃ refusal? answer entry, call.stint h b = h.request refusal? answer [entry] ∧
      ((∃ name, entry = .cursorCalled name h.parameters) ∨
        ∃ sql, entry = .cursorRan sql (some (Marker.bind h.parameters style))) := by
  cases hn : h.calledByName? b with
  | some name =>
    exact ⟨b.refusal? name, .list h.parameters, .cursorCalled name h.parameters,
      call_stint_named h b hb hn, .inl ⟨name, rfl⟩⟩
  | none =>
    have text := call_stint_text h b hb hn
    cases hr : Marker.respell h.sql style with
    | error fault =>
      rw [hr] at text
      -- the call fails before it reaches the driver; the entry is of no account then
      exact ⟨some (.fault fault), .null, .cursorRan h.sql _, text, .inr ⟨h.sql, rfl⟩⟩
    | ok sql =>
      rw [hr] at text
      exact ⟨b.refusal? sql, .cursor .raw, .cursorRan sql _, text, .inr ⟨sql, rfl⟩⟩

instance local_close : (close : HandleStep shape Unit).Local := by
  refine .bind inferInstance fun h => .bind inferInstance fun _ => ?_
  split <;> infer_instance

/-- **Closing**: a raw cursor is closed once, and anything else as often as it is asked for. -/
theorem close_stint (h : Handle shape) (b : Behavior) :
    (close : HandleStep shape Unit).stint h b =
      ⟨.closing (h.closeFailure? b) h.closing, { h with closed := true }⟩ := by
  rw [close, HandleStep.stint_get_bind, HandleStep.stint_modify_bind]
  rcases h with ⟨_ | ⟨style, count⟩, template, parameters, mode, closed⟩
  · show HandleStep.stint (liftM (Session.write (.closed shape.resource)) >>= _) _ b = _
    simp only [HandleStep.stint_bind, HandleStep.stint_lift, Session.account_write,
      Session.account_behavior, Session.account_failIf, Stint.ok_bind, closeFailure?, resource,
      closes]
    cases b.closeFailure? shape.resource <;> rfl
  · cases closed with
    | true => rfl
    | false =>
      show HandleStep.stint (liftM (Session.write (.closed .cursor)) >>= _) _ b = _
      simp only [HandleStep.stint_bind, HandleStep.stint_lift, Session.account_write,
        Session.account_behavior, Session.account_failIf, Stint.ok_bind, closeFailure?, resource,
        closes]
      cases b.closeFailure? .cursor <;> rfl

theorem perform_does (h : Handle shape) (step : HandleStep shape α) [hs : step.Local] :
    (h.perform step).Does fun b =>
      ⟨.ok ((step.stint h b).outcome, (step.stint h b).handle), (step.stint h b).entries,
        (step.stint h b).events⟩ := by
  intro w
  show (Except.ok ((step.run.run h w).1.1, (step.run.run h w).1.2), (step.run.run h w).2) = _
  rw [hs.does h w]
  rfl

instance local_perform (h : Handle shape) (step : HandleStep shape α) [step.Local] :
    (h.perform step).Local := (perform_does h step).local

theorem perform_account (h : Handle shape) (step : HandleStep shape α) [step.Local]
    (b : Behavior) :
    (h.perform step).account b =
      ⟨.ok ((step.stint h b).outcome, (step.stint h b).handle), (step.stint h b).entries,
        (step.stint h b).events⟩ := congrFun (perform_does h step).account_eq b

instance local_release (h : Handle shape) : h.release.Local := by
  unfold release
  infer_instance

/-- The events of a release of the handle. -/
def releaseEvents (h : Handle shape) (b : Behavior) : List Event :=
  Session.releaseEvents ((h.closeFailure? b).elim (.ok ()) .error)

/-- **A handle is released by closing it, and that never fails.** -/
theorem release_account (h : Handle shape) (b : Behavior) :
    h.release.account b = ⟨.ok (), h.closing, h.releaseEvents b⟩ := by
  rw [release, Session.account_release, Session.account_bind, perform_account, close_stint]
  simp only [Account.closing, Account.bind, Session.account_ofExcept, List.append_nil]
  rfl

end Handle

/-! ## Where handles come from -/

namespace Connection

instance local_openCursor (style : MarkerStyle) : (openCursor style).Local := by
  unfold openCursor
  infer_instance

theorem openCursor_account (style : MarkerStyle) (b : Behavior) :
    (openCursor style).account b =
      .request (b.acquireFailure? .cursor) (.cursor style b.rowCount) [.cursorOpened] := by
  simp only [openCursor, Session.account_bind, Session.account_behavior, Session.account_failIf,
    Session.account_write, Session.account_pure, Account.ok_bind]
  cases b.acquireFailure? .cursor with
  | some failure => rfl
  | none => rfl

instance local_openScripted (sql : String) (entry : Entry) :
    (openScripted sql entry : Session (Handle shape)).Local := by
  unfold openScripted
  infer_instance

theorem openScripted_account (sql : String) (entry : Entry) (b : Behavior) :
    (openScripted sql entry : Session (Handle shape)).account b =
      .request (b.acquireFailure? shape.resource) { backing := .scripted, sql := sql }
        [entry] := by
  simp only [openScripted, Session.account_bind, Session.account_behavior,
    Session.account_failIf, Session.account_write, Session.account_pure, Account.ok_bind]
  cases b.acquireFailure? shape.resource with
  | some failure => rfl
  | none => rfl

instance local_refuseHandle (url : String) : (refuseHandle url : Session α).Local := by
  unfold refuseHandle
  infer_instance

instance local_createStatement (c : Connection) : c.createStatement.Local := by
  unfold createStatement
  split <;> infer_instance

instance local_prepareStatement (sql : String) (c : Connection) :
    (c.prepareStatement sql).Local := by
  unfold prepareStatement
  split <;> infer_instance

instance local_prepareCall (sql : String) (c : Connection) : (c.prepareCall sql).Local := by
  unfold prepareCall
  split <;> infer_instance

theorem createStatement_adapted (url : String) (style : MarkerStyle) (b : Behavior) :
    (createStatement (.adapted url style)).account b =
      .request (b.acquireFailure? .cursor) { backing := .cursor style b.rowCount }
        [.cursorOpened] := by
  simp only [createStatement, Session.account_bind, openCursor_account, Session.account_pure]
  cases b.acquireFailure? .cursor with
  | some failure => rfl
  | none => rfl

theorem prepareCall_adapted (url : String) (style : MarkerStyle) (sql : String) (b : Behavior) :
    (prepareCall sql (.adapted url style)).account b =
      .request (b.acquireFailure? .cursor) { backing := .cursor style b.rowCount, sql := sql }
        [.cursorOpened] := by
  simp only [prepareCall, Session.account_bind, openCursor_account, Session.account_pure]
  cases b.acquireFailure? .cursor with
  | some failure => rfl
  | none => rfl

/-- The raw cursor is opened before the template is respelled, and nobody closes it when that
    goes wrong. -/
theorem prepareStatement_adapted (url : String) (style : MarkerStyle) (sql : String)
    (b : Behavior) :
    (prepareStatement sql (.adapted url style)).account b =
      (Account.request (b.acquireFailure? .cursor) () [.cursorOpened]).bind fun _ =>
        ⟨(Marker.respell sql style).mapError Failure.fault |>.map fun respelled =>
          { backing := .cursor style b.rowCount, sql := respelled }, [], []⟩ := by
  simp only [prepareStatement, Session.account_bind, openCursor_account, Session.account_pure,
    Session.account_ofFault]
  cases b.acquireFailure? .cursor with
  | some failure => rfl
  | none => cases Marker.respell sql style <;> rfl

/-- A template that can be respelled is prepared by opening the cursor. -/
theorem prepareStatement_respelled (url : String) {style : MarkerStyle} {sql text : String}
    (h : Marker.respell sql style = .ok text) (b : Behavior) :
    (prepareStatement sql (.adapted url style)).account b =
      .request (b.acquireFailure? .cursor) { backing := .cursor style b.rowCount, sql := text }
        [.cursorOpened] := by
  rw [prepareStatement_adapted, h]
  cases b.acquireFailure? .cursor with
  | some failure => rfl
  | none => rfl

end Connection

end SqlRunner
