import SqlRunner.Proofs.Account.Runner

/-!
# Hurdles — where the use of a handle can fail

From the moment a handle is asked for until it is released, a failure comes from the driver, from
unwrapping what it answered, or from a caller's own code. Each place where that can happen is a
`Hurdle`, and a hurdle knows from the behavior of the database whether it is the end. What is done
with a handle is then the list of the hurdles on its way: `template` for a template, `texts` for
strings, `callable` for a call, `reading` for the rows of a query.

Those lists are written down here without the runner, and the steps of handles are measured by them:
a step `Meets` a list if it fails as the first hurdle of the list that fails, and not otherwise.
Releasing the handle is not on any list.
-/

set_option autoImplicit false

namespace SqlRunner

variable {α β : Type} {shape : Shape}

/-- A place where the use of a handle can fail. -/
inductive Hurdle where
  | acquire (resource : Resource)
  /-- Markers are written in a driver's style. -/
  | respell (sql : String) (style : MarkerStyle)
  | bind
  | run (sql : String)
  | fetch
  /-- A value of a row is unwrapped, which reads large objects. -/
  | unwrap (value : Datum)
  /-- A caller closes the handle itself. -/
  | close (resource : Resource)
  /-- A caller's own code fails. -/
  | raise (failure : Failure)

/-- The failure of a computation that knows no execution errors. -/
def faultOf? : Except Fault α → Option Failure
  | .ok _ => none
  | .error fault => some (.fault fault)

/-- The failure at a hurdle. -/
def Hurdle.failure? (b : Behavior) : Hurdle → Option Failure
  | acquire resource => b.acquireFailure? resource
  | respell sql style => faultOf? (Marker.respell sql style)
  | bind => b.bindFailure?
  | run sql => b.refusal? sql
  | fetch => b.fetchFailure?
  | unwrap value => faultOf? value.extracted
  | close resource => b.closeFailure? resource
  | raise failure => some failure

/-- The first failure among hurdles. -/
def firstFailure? (b : Behavior) (hurdles : List Hurdle) : Option Failure :=
  hurdles.findSome? (Hurdle.failure? b)

namespace Hurdle

/-- The failure of the first hurdle that fails, and the answer if none does. -/
def outcome (b : Behavior) (hurdles : List Hurdle) (answer : α) : Except Failure α :=
  match firstFailure? b hurdles with
  | some failure => .error failure
  | none => .ok answer

/-- SQL with markers, run by a driver with a style of its own. -/
def respelled (style : MarkerStyle) (sql : String) : List Hurdle :=
  respell sql style ::
    match Marker.respell sql style with
    | .ok text => [run text]
    | .error _ => []

/-- A template, prepared and run. -/
def template (sql : String) : Connection → List Hurdle
  | .scripted _ _ => [acquire .prepared, bind, run sql]
  | .adapted _ style => acquire .cursor :: respelled style sql
  | .offline _ => []

/-- Strings, run through one plain handle. -/
def texts (strings : List String) : Connection → List Hurdle
  | .scripted _ _ => acquire .statement :: strings.map run
  | .adapted _ _ => acquire .cursor :: strings.map run
  | .offline _ => []

/-- The rows of a query, read in full: of each row as many values as there are columns. -/
def reading (b : Behavior) : List Hurdle :=
  fetch :: b.rows.flatMap fun row => (row.take (b.columns.getD []).length).map unwrap

/-- Parameters, bound. A raw cursor is not asked before it runs something. -/
def binding : Backing → List Hurdle
  | .scripted => [bind]
  | .cursor _ _ => []

/-- A call, made by the procedure's name or as text. -/
def calling (b : Behavior) (sql : String) (parameters : List Datum) : Backing → List Hurdle
  | .scripted => [run sql]
  | .cursor style _ =>
    match if b.callsByName then CallTarget.target? sql parameters.length else none with
    | some name => [run name]
    | none => respelled style sql

/-- A callable handle, closed by the one it was handed to. A raw cursor is closed once. -/
def closing (closed : Bool) : Backing → List Hurdle
  | .scripted => [close .callable]
  | .cursor _ _ => if closed then [] else [close .cursor]

/-- What a call is answered, if nothing fails. -/
def reply (b : Behavior) (sql : String) (parameters : List Datum) : Backing → Datum
  | .scripted => .list (.text "out" :: parameters)
  | .cursor _ _ =>
    match if b.callsByName then CallTarget.target? sql parameters.length else none with
    | some _ => .list parameters
    | none => .cursor .raw

/-- What a caller does with a callable handle comes to this, request after request. What happens at
    the hurdles of a request is its outcome, and the caller decides what comes next. -/
def conducted (b : Behavior) : Handle .callable → Conduct → Except Failure Datum
  | _, .answer value => .ok value
  | _, .fail failure => .error failure
  | h, .look next => conducted b h (next h)
  | h, .bind parameters next =>
    conducted b { h with parameters := parameters } (next (outcome b (binding h.backing) ()))
  | h, .call next =>
    conducted b h (next (outcome b (calling b h.sql h.parameters h.backing)
      (reply b h.sql h.parameters h.backing)))
  | h, .close next =>
    conducted b { h with closed := true } (next (outcome b (closing h.closed h.backing) ()))

/-- What is done with a callable handle whose parameters are bound. A caller that fails is the only
    hurdle there, for it may go on after any other. -/
def handled (b : Behavior) (h : Handle .callable) : Option Conduct → List Hurdle
  | none => calling b h.sql h.parameters h.backing
  | some conduct =>
    match conducted b h conduct with
    | .ok _ => []
    | .error failure => [raise failure]

/-- A call, prepared and bound, and what is done with it. -/
def callable (b : Behavior) (sql : String) (parameters : List Datum) (conduct : Option Conduct) :
    Connection → List Hurdle
  | .scripted _ _ =>
    acquire .callable :: bind ::
      handled b { backing := .scripted, sql := sql, parameters := parameters } conduct
  | .adapted _ style =>
    acquire .cursor ::
      handled b
        { backing := .cursor style b.rowCount, sql := sql, parameters := parameters } conduct
  | .offline _ => []

end Hurdle

/-! ## Measuring steps -/

/-- The failure that an account ends with. -/
def Account.failure? (a : Account α) : Option Failure :=
  match a.outcome with
  | .ok _ => none
  | .error failure => some failure

/-- Two steps fail as the first of them does, or else as the second. -/
theorem Account.failure?_bind {first : Account α} {next : α → Account β} {other : Option Failure}
    (h : ∀ value, first.outcome = .ok value → (next value).failure? = other) :
    (first.bind next).failure? = first.failure?.or other := by
  cases ho : first.outcome with
  | error failure =>
    rw [Account.bind_of_error ho, failure?, failure?, ho]
    rfl
  | ok value =>
    rw [Account.bind_of_ok ho, ← h value ho, failure?, failure?, failure?, ho]
    rfl

theorem firstFailure?_cons (b : Behavior) (hurdle : Hurdle) (rest : List Hurdle) :
    firstFailure? b (hurdle :: rest) = (hurdle.failure? b).or (firstFailure? b rest) := by
  rw [firstFailure?, List.findSome?_cons]
  cases hurdle.failure? b with
  | none => rfl
  | some failure => rfl

theorem firstFailure?_append (b : Behavior) (first second : List Hurdle) :
    firstFailure? b (first ++ second) = (firstFailure? b first).or (firstFailure? b second) :=
  List.findSome?_append

/-- A step with this account fails as the first of the hurdles that fails, and only so. -/
def Meets (b : Behavior) (hurdles : List Hurdle) (a : Account α) : Prop :=
  a.failure? = firstFailure? b hurdles

namespace Meets

variable {b : Behavior} {hs ks : List Hurdle}

theorem answer (value : α) (entries : List Entry) (events : List Event) :
    Meets b [] (⟨.ok value, entries, events⟩ : Account α) := rfl

theorem request {hurdle : Hurdle} {refusal? : Option Failure}
    (h : refusal? = hurdle.failure? b) (answer : α) (entries : List Entry) :
    Meets b [hurdle] (.request refusal? answer entries) := by
  rw [Meets, firstFailure?, List.findSome?_singleton, ← h]
  cases refusal? with
  | none => rfl
  | some failure => rfl

/-- A hurdle that is taken makes no difference. -/
theorem taken {hurdle : Hurdle} (passes : hurdle.failure? b = none) {a : Account α}
    (h : Meets b hs a) : Meets b (hurdle :: hs) a := by
  rw [Meets, firstFailure?_cons, passes]
  exact h

/-- What fails first in two steps fails in the first of them, or else in the second. -/
theorem bind {first : Account α} {next : α → Account β} (hf : Meets b hs first)
    (hn : ∀ value, first.outcome = .ok value → Meets b ks (next value)) :
    Meets b (hs ++ ks) (first.bind next) := by
  rw [Meets, firstFailure?_append, ← hf]
  exact Account.failure?_bind hn

end Meets

/-- What two steps on a handle do, apart from the handle they leave. -/
theorem Stint.toAccount_bind (first : Stint shape α) (next : α → Handle shape → Stint shape β) :
    (first.bind next).toAccount =
      first.toAccount.bind fun value => (next value first.handle).toAccount := by
  cases ho : first.outcome with
  | error failure => rw [Stint.bind_of_error ho, Account.bind_of_error ho]
  | ok value => rw [Stint.bind_of_ok ho, Account.bind_of_ok ho]

namespace HandleStep

/-- **One step on a handle after another** meets the hurdles of both. -/
theorem meets_bind {step : HandleStep shape α} {next : α → HandleStep shape β} [step.Local]
    [∀ value, (next value).Local] {b : Behavior} {h : Handle shape} {hs ks : List Hurdle}
    (hf : Meets b hs (step.stint h b).toAccount)
    (hn : ∀ value, (step.stint h b).outcome = .ok value →
      Meets b ks ((next value).stint (step.stint h b).handle b).toAccount) :
    Meets b (hs ++ ks) ((step >>= next).stint h b).toAccount := by
  rw [stint_bind, Stint.toAccount_bind]
  exact hf.bind hn

/-- What is made of an answer is no hurdle, and leaves the handle as it is. -/
theorem meets_answer {step : HandleStep shape α} [step.Local] (f : α → β) {b : Behavior}
    {h : Handle shape} {hs : List Hurdle} (hf : Meets b hs (step.stint h b).toAccount) :
    Meets b hs ((step >>= fun value => pure (f value)).stint h b).toAccount ∧
      ((step >>= fun value => pure (f value)).stint h b).handle = (step.stint h b).handle := by
  have both : Meets b (hs ++ []) ((step >>= fun value => pure (f value)).stint h b).toAccount :=
    meets_bind hf fun value _ => by
      rw [stint_pure]
      exact .answer (f value) [] []
  rw [List.append_nil] at both
  refine ⟨both, ?_⟩
  rw [stint_bind]
  cases ho : (step.stint h b).outcome with
  | error failure => rw [Stint.bind_of_error ho]
  | ok value => rw [Stint.bind_of_ok ho, stint_pure]

/-- What cannot fail is no hurdle. -/
theorem meets_announce (event text : String) {next : Unit → HandleStep shape α}
    [∀ value, (next value).Local] {b : Behavior} {h : Handle shape} {hs : List Hurdle}
    (hn : Meets b hs ((next ()).stint h b).toAccount) :
    Meets b hs ((liftM (Runner.announce event text) >>= next).stint h b).toAccount := by
  rw [stint_bind, stint_lift, Runner.announce_account, Stint.toAccount_bind]
  exact (Meets.answer () [] _).bind fun _ _ => hn

end HandleStep

/-! ## Steps of handles -/

namespace Handle

variable {b : Behavior}

theorem bind_meets (parameters : List Datum) (h : Handle shape) :
    Meets b (Hurdle.binding h.backing) ((bind parameters).stint h b).toAccount := by
  rw [bind_stint, request]
  cases h.backing with
  | scripted => exact .request rfl () _
  | cursor style count => exact .answer () [] []

theorem query_meets (sql : String) (h : Handle .plain) :
    Meets b [.run sql] ((query sql).stint h b).toAccount := by
  rw [query_stint]
  exact .request rfl _ _

theorem update_meets (sql : String) (h : Handle .plain) :
    Meets b [.run sql] ((update sql).stint h b).toAccount := by
  rw [update_stint]
  exact .request rfl _ _

theorem queryPrepared_meets (h : Handle .prepared) :
    Meets b [.run h.sql] (queryPrepared.stint h b).toAccount := by
  rw [queryPrepared_stint]
  exact .request rfl _ _

theorem updatePrepared_meets (h : Handle .prepared) :
    Meets b [.run h.sql] (updatePrepared.stint h b).toAccount := by
  rw [updatePrepared_stint]
  exact .request rfl _ _

/-- Parameters are bound, and then a template is used. -/
theorem bound_meets {next : HandleStep .prepared α} [next.Local] {hs : List Hurdle}
    (parameters : List Datum) (h : Handle .prepared)
    (hn : ∀ left : Handle .prepared, left.sql = h.sql →
      Meets b hs (next.stint left b).toAccount) :
    Meets b (Hurdle.binding h.backing ++ hs)
      ((bind parameters >>= fun _ => next).stint h b).toAccount := by
  refine HandleStep.meets_bind (bind_meets parameters h) fun _ _ => hn _ ?_
  rw [bind_stint, request]

theorem runPlain_meets (verb : Verb) (sql : String) (h : Handle .plain) :
    Meets b [.run sql] ((runPlain verb sql).stint h b).toAccount := by
  rw [runPlain_stint]
  exact .request rfl () _

theorem runPrepared_meets (verb : Verb) (h : Handle .prepared) :
    Meets b [.run h.sql] ((runPrepared verb).stint h b).toAccount := by
  rw [runPrepared_stint]
  exact .request rfl () _

theorem call_meets (h : Handle .callable) :
    Meets b (Hurdle.calling b h.sql h.parameters h.backing) (call.stint h b).toAccount := by
  cases hb : h.backing with
  | scripted =>
    rw [call_stint_scripted h b hb]
    exact .request rfl _ _
  | cursor style count =>
    rw [Hurdle.calling, ← calledByName?]
    cases hn : h.calledByName? b with
    | some name =>
      rw [call_stint_named h b hb hn]
      exact .request rfl _ _
    | none =>
      rw [call_stint_text h b hb hn, Hurdle.respelled]
      cases hr : Marker.respell h.sql style with
      | error fault =>
        rw [Meets, firstFailure?_cons, Hurdle.failure?, hr]
        rfl
      | ok text =>
        refine .taken (by rw [Hurdle.failure?, hr]; rfl) ?_
        exact .request rfl (Datum.cursor .raw) _

theorem close_meets (h : Handle .callable) :
    Meets b (Hurdle.closing h.closed h.backing)
      ((close : HandleStep .callable Unit).stint h b).toAccount := by
  have attempted (resource : Resource) :
      Meets b [.close resource] (.closing (b.closeFailure? resource) [.closed resource]) := by
    rw [Meets, firstFailure?_cons, Hurdle.failure?]
    cases b.closeFailure? resource with
    | none => rfl
    | some failure => rfl
  rw [close_stint]
  rcases h with ⟨_ | ⟨style, count⟩, sql, parameters, mode, closed⟩
  · exact attempted .callable
  · cases closed with
    | true => exact .answer () [] []
    | false => exact attempted .cursor

/-- A call leaves its handle as it is. -/
theorem call_stint_handle (h : Handle .callable) : (call.stint h b).handle = h := by
  cases hb : h.backing with
  | scripted => rw [call_stint_scripted h b hb, request]
  | cursor style count =>
    obtain ⟨refusal?, answer, entry, stint, -⟩ := call_stint_cursor h b hb
    rw [stint, request]

end Handle

/-! ## Callers -/

/-- What a step comes to whose answer is known. -/
theorem Meets.outcome {b : Behavior} {hs : List Hurdle} {a : Account α} (h : Meets b hs a)
    (answer : α) (gives : ∀ value, a.outcome = .ok value → value = answer) :
    a.outcome = Hurdle.outcome b hs answer := by
  rw [Meets, Account.failure?] at h
  rw [Hurdle.outcome, ← h]
  cases ho : a.outcome with
  | error failure => rfl
  | ok value => rw [gives value ho]

theorem Handle.call_gives {b : Behavior} (h : Handle .callable) (value : Datum)
    (answered : (call.stint h b).outcome = .ok value) :
    value = Hurdle.reply b h.sql h.parameters h.backing := by
  -- a request that is not refused has the answer that was meant for it
  have of_request {refusal? : Option Failure} {answer : Datum} {entries : List Entry}
      (same : (h.request refusal? answer entries).outcome = .ok value) : value = answer := by
    cases refusal? with
    | some failure => cases same
    | none => exact (Except.ok.inj same).symm
  cases hb : h.backing with
  | scripted =>
    rw [call_stint_scripted h b hb] at answered
    exact of_request answered
  | cursor style count =>
    rw [Hurdle.reply, ← calledByName?]
    cases hn : h.calledByName? b with
    | some name =>
      rw [call_stint_named h b hb hn] at answered
      exact of_request answered
    | none =>
      rw [call_stint_text h b hb hn] at answered
      cases hr : Marker.respell h.sql style with
      | error fault => rw [hr] at answered; cases answered
      | ok text =>
        rw [hr] at answered
        exact of_request answered

/-- Behind a request that is attempted a caller goes on from its outcome, and from the handle that
    it leaves. -/
theorem Conduct.outcome_behind {b : Behavior} (step : HandleStep .callable α) [step.Local]
    (next : Except Failure α → Conduct) (h : Handle .callable) :
    (HandleStep.stint (HandleStep.attempt step >>= fun outcome => (next outcome).run) h b).outcome =
      ((next (step.stint h b).outcome).run.stint (step.stint h b).handle b).outcome := by
  rw [HandleStep.stint_bind, HandleStep.stint_attempt, Stint.bind_of_ok rfl]

/-- **What a caller comes to**, from any state of the handle. -/
theorem Conduct.run_outcome {b : Behavior} (conduct : Conduct) (h : Handle .callable) :
    (conduct.run.stint h b).outcome = Hurdle.conducted b h conduct := by
  induction conduct generalizing h with
  | answer value =>
    rw [run, HandleStep.stint_pure]
    rfl
  | fail failure =>
    rw [run, HandleStep.stint_throw]
    rfl
  | look next ih =>
    rw [run, HandleStep.stint_get_bind]
    exact ih h h
  | bind parameters next ih =>
    refine (outcome_behind (Handle.bind parameters) next h).trans ((ih _ _).trans ?_)
    rw [(Handle.bind_meets parameters h).outcome () fun _ _ => rfl, Handle.bind_stint]
    rfl
  | call next ih =>
    refine (outcome_behind Handle.call next h).trans ((ih _ _).trans ?_)
    rw [(Handle.call_meets h).outcome _ (Handle.call_gives h), Handle.call_stint_handle]
    rfl
  | close next ih =>
    refine (outcome_behind Handle.close next h).trans ((ih _ _).trans ?_)
    rw [(Handle.close_meets h).outcome () fun _ _ => rfl, Handle.close_stint]
    rfl

/-- **A handle that is handed over** fails at the call, or as the caller does. -/
theorem Handle.handOver_meets {b : Behavior} (conduct : Option Conduct) (h : Handle .callable) :
    Meets b (Hurdle.handled b h conduct) ((handOver conduct).stint h b).toAccount := by
  cases conduct with
  | none => exact call_meets h
  | some c =>
    rw [Meets, Account.failure?, handOver, Hurdle.handled, Conduct.run_outcome]
    cases Hurdle.conducted b h c with
    | ok value => rfl
    | error failure => rfl

/-! ## Reading rows -/

namespace QueryResult

variable (b : Behavior)

theorem faultOf?_bind {first : Except Fault α} {next : α → Except Fault β}
    {other : Option Failure} (h : ∀ value, faultOf? (next value) = other) :
    faultOf? (first >>= next) = (faultOf? first).or other := by
  cases first with
  | error fault => rfl
  | ok value => exact h value

/-- A row is read value by value, as far as there are columns. -/
theorem faultOf?_mapRow (labels : List String) (row : List Datum) (fields : Fields) :
    faultOf? ((labels.zip row).foldlM (fun fields (label, value) => do
      return fields.put label (← value.extracted)) fields) =
        firstFailure? b ((row.take labels.length).map .unwrap) := by
  induction labels generalizing row fields with
  | nil => rfl
  | cons label rest ih =>
    cases row with
    | nil => rfl
    | cons value others =>
      rw [List.zip_cons_cons, List.foldlM_cons, List.length_cons, List.take_succ_cons,
        List.map_cons, firstFailure?_cons, faultOf?_bind fun more => ih others more]
      dsimp only [Hurdle.failure?]
      cases value.extracted with
      | error fault => rfl
      | ok extracted => rfl

/-- Rows are read one after another. -/
theorem faultOf?_mapRows (labels : List String) (rows : List (List Datum)) :
    faultOf? (mapRows labels rows) =
      firstFailure? b (rows.flatMap fun row => (row.take labels.length).map .unwrap) := by
  induction rows with
  | nil => rfl
  | cons row rest ih =>
    rw [mapRows, List.flatMap_cons, firstFailure?_append, ← faultOf?_mapRow b labels row [], ← ih]
    refine faultOf?_bind fun first => ?_
    cases mapRows labels rest with
    | error fault => rfl
    | ok others => rfl

theorem faultOf?_ofCursor :
    faultOf? (ofCursor b.columns b.rows) = firstFailure? b
      (b.rows.flatMap fun row => (row.take (b.columns.getD []).length).map .unwrap) := by
  have labels : (columnLabels b.columns).length = (b.columns.getD []).length :=
    List.length_map _
  rw [← labels, ← faultOf?_mapRows, ofCursor]
  cases mapRows (columnLabels b.columns) b.rows with
  | error fault => rfl
  | ok rows => rfl

end QueryResult

/-- **Reading a result** fails at fetching its rows, or at one of their values. -/
theorem Cursor.materialize_meets (cursor : Cursor) (b : Behavior) :
    Meets b (Hurdle.reading b) (cursor.materialize.account b) := by
  have rows := QueryResult.faultOf?_ofCursor b
  rw [Meets, materialize_account, Account.failure?, Hurdle.reading, firstFailure?_cons, ← rows,
    Hurdle.failure?]
  dsimp only [reading]
  cases b.fetchFailure? with
  | some failure => rfl
  | none =>
    cases QueryResult.ofCursor b.columns b.rows with
    | error fault => rfl
    | ok result => rfl

/-- A step that gives a cursor, and the reading of it. -/
theorem HandleStep.meets_materialize {step : HandleStep shape Cursor} [step.Local] {b : Behavior}
    {h : Handle shape} {hs : List Hurdle} (hf : Meets b hs (step.stint h b).toAccount) :
    Meets b (hs ++ Hurdle.reading b)
      ((step >>= fun cursor => liftM cursor.materialize).stint h b).toAccount := by
  refine meets_bind hf fun cursor _ => ?_
  rw [stint_lift]
  exact cursor.materialize_meets b

end SqlRunner
