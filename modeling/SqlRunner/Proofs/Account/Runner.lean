import SqlRunner.Operation
import SqlRunner.Proofs.Account.Handle

/-!
# Accounts of operations

An operation of a runner is one bracket around one stint: acquire a handle, act on it, release it.
`withHandle_account` says so in terms of what is written down. The steps before the handle write
nothing at all, so an operation is its bracket or nothing.

Operations one after another are then no more than their accounts one after another, each under the
behavior of its own turn: no operation reads what the ones before it left.
-/

set_option autoImplicit false

namespace SqlRunner

variable {α β : Type} {shape : Shape}

/-! ## Conducts -/

namespace HandleStep

theorem Does.attempt {step : HandleStep shape α} {acc : Handle shape → Behavior → Stint shape α}
    (h : step.Does acc) :
    (HandleStep.attempt step).Does fun left b =>
      ⟨⟨.ok (acc left b).outcome, (acc left b).entries, (acc left b).events⟩,
        (acc left b).handle⟩ := by
  intro handle w
  show ((Except.ok (step.run.run handle w).1.1, (step.run.run handle w).1.2),
    (step.run.run handle w).2) = _
  rw [h handle w]
  rfl

instance local_attempt (step : HandleStep shape α) [h : step.Local] :
    (HandleStep.attempt step).Local := h.does.attempt.local

@[simp] theorem stint_attempt (step : HandleStep shape α) [hs : step.Local] (h : Handle shape)
    (b : Behavior) :
    (HandleStep.attempt step).stint h b =
      ⟨⟨.ok (step.stint h b).outcome, (step.stint h b).entries, (step.stint h b).events⟩,
        (step.stint h b).handle⟩ :=
  congrFun (congrFun hs.does.attempt.stint_eq h) b

end HandleStep

instance Conduct.local_run (conduct : Conduct) : conduct.run.Local := by
  induction conduct with
  | answer value => exact HandleStep.local_pure value
  | fail failure => exact HandleStep.local_throw failure
  | look next ih => exact .bind inferInstance ih
  | bind parameters next ih => exact .bind inferInstance ih
  | call next ih => exact .bind inferInstance ih
  | close next ih => exact .bind inferInstance ih

instance Handle.local_handOver (conduct : Option Conduct) : (handOver conduct).Local := by
  unfold handOver
  split <;> infer_instance

namespace Runner

/-! ## The way of every operation -/

instance local_ensureOnline (r : Runner) : r.ensureOnline.Local := by
  unfold ensureOnline
  infer_instance

/-- The failure of every operation over an offline connection. -/
def offlineFailure? (r : Runner) : Option Failure :=
  if r.connection.isOffline then
    some (.execution (.connectionUnavailable (some r.connection.url)))
  else none

theorem ensureOnline_account (r : Runner) (b : Behavior) :
    r.ensureOnline.account b = .request r.offlineFailure? () [] := by
  rw [ensureOnline, offlineFailure?, Session.account_ite]
  cases r.connection.isOffline with
  | false => exact Session.account_pure () b
  | true => exact Session.account_fail _ b

theorem offlineFailure?_of_offline {r : Runner} (offline : r.connection.isOffline = true) :
    r.offlineFailure? = some (.execution (.connectionUnavailable (some r.connection.url))) :=
  if_pos offline

theorem offlineFailure?_of_online {r : Runner} (online : r.connection.isOffline = false) :
    r.offlineFailure? = none := by
  rw [offlineFailure?, online, if_neg Bool.false_ne_true]

instance local_renderSingle (r : Runner) (statement : Statement) (visitors : List Visitor)
    (operation : String) : (r.renderSingle statement visitors operation).Local := by
  unfold renderSingle
  infer_instance

theorem renderSingle_account (r : Runner) (statement : Statement) (visitors : List Visitor)
    (operation : String) (b : Behavior) :
    (r.renderSingle statement visitors operation).account b =
      ⟨Rendering.renderSingle r.dialect visitors operation statement, [], []⟩ :=
  Session.account_ofExcept _ b

theorem renderSingle_account_of (r : Runner) {statement : Statement} {visitors : List Visitor}
    {operation : String} {result : Except Failure String}
    (h : Rendering.renderSingle r.dialect visitors operation statement = result) (b : Behavior) :
    (r.renderSingle statement visitors operation).account b = ⟨result, [], []⟩ := by
  rw [renderSingle_account, h]

instance local_render (r : Runner) (statement : Statement) (visitors : List Visitor) :
    (r.render statement visitors).Local := by
  unfold render
  infer_instance

theorem render_account (r : Runner) (statement : Statement) (visitors : List Visitor)
    (b : Behavior) :
    (r.render statement visitors).account b =
      ⟨(Rendering.render r.dialect visitors statement).mapError .fault, [], []⟩ :=
  Session.account_ofFault _ b

theorem render_account_of_ok (r : Runner) {statement : Statement} {visitors : List Visitor}
    {strings : List String} (h : Rendering.render r.dialect visitors statement = .ok strings)
    (b : Behavior) :
    (r.render statement visitors).account b = ⟨.ok strings, [], []⟩ := by
  rw [render_account, h, mapError_ok]

theorem render_account_of_error (r : Runner) {statement : Statement} {visitors : List Visitor}
    {fault : Fault} (h : Rendering.render r.dialect visitors statement = .error fault)
    (b : Behavior) :
    (r.render statement visitors).account b = ⟨.error (.fault fault), [], []⟩ := by
  rw [render_account, h, mapError_error]

instance local_announce (event sql : String) : (announce event sql).Local := by
  unfold announce
  infer_instance

theorem announce_account (event sql : String) (b : Behavior) :
    (announce event sql).account b = ⟨.ok (), [], [⟨event, [("sql", .text sql)]⟩]⟩ :=
  Session.account_report event _ b

/-- The end of an operation: the handle is released, and a failure leaves as an execution error. -/
instance local_settle (r : Runner) (sql : List String) (operation : String)
    (outcome : Except Failure α) (left : Handle shape) :
    Session.Local (do
      left.release
      match outcome with
      | .ok value => return value
      | .error failure => Session.fail (r.leaving sql operation failure)) := by
  refine .bind inferInstance fun _ => ?_
  split <;> infer_instance

theorem settle_account (r : Runner) (sql : List String) (operation : String)
    (outcome : Except Failure α) (left : Handle shape) (b : Behavior) :
    Session.account (do
      left.release
      match outcome with
      | .ok value => return value
      | .error failure => Session.fail (r.leaving sql operation failure)) b =
      ⟨outcome.mapError (r.leaving sql operation), left.closing, left.releaseEvents b⟩ := by
  cases outcome with
  | ok value =>
    simp only [Session.account_bind, Handle.release_account, Session.account_pure,
      Account.noting_bind, List.append_nil, mapError_ok]
  | error failure =>
    simp only [Session.account_bind, Handle.release_account, Session.account_fail,
      Account.noting_bind, List.append_nil, mapError_error]

instance local_withHandle (r : Runner) (acquire : Session (Handle shape)) (sql : List String)
    (operation : String) (action : HandleStep shape α) [acquire.Local] [action.Local] :
    (r.withHandle acquire sql operation action).Local := by
  refine .bind inferInstance fun acquired => ?_
  split
  · infer_instance
  · refine .bind inferInstance fun (outcome, left) => .bind inferInstance fun _ => ?_
    split <;> infer_instance

/-- **The bracket of an operation**: whatever the action does, the handle it leaves is released
    after it, and nothing comes after that. -/
theorem withHandle_account (r : Runner) (acquire : Session (Handle shape)) (sql : List String)
    (operation : String) (action : HandleStep shape α) [acquire.Local] [action.Local]
    (b : Behavior) :
    (r.withHandle acquire sql operation action).account b =
      (match (acquire.account b).outcome with
      | .error failure =>
        ⟨.error (r.leaving sql operation failure), (acquire.account b).entries,
          (acquire.account b).events⟩
      | .ok handle =>
        let stint := action.stint handle b
        ⟨stint.outcome.mapError (r.leaving sql operation),
          (acquire.account b).entries ++ (stint.entries ++ stint.handle.closing),
          (acquire.account b).events ++ (stint.events ++ stint.handle.releaseEvents b)⟩) := by
  -- the rest matches on what was acquired, so its locality is shown on the way
  refine (Session.Local.account_bind inferInstance (fun acquired => ?_) b).trans ?_
  · split
    · infer_instance
    · refine .bind inferInstance fun (outcome, left) => .bind inferInstance fun _ => ?_
      split <;> infer_instance
  rw [Session.account_attempt, Account.noting_bind]
  cases (acquire.account b).outcome with
  | error failure => simp only [Session.account_fail, List.append_nil]
  | ok handle =>
    have rest := Session.Local.account_bind (Handle.local_perform handle action)
      (fun answer => r.local_settle sql operation answer.1 answer.2) b
    simp only [Handle.perform_account, settle_account, Account.noting_bind] at rest
    exact congrArg (fun a : Account α => (⟨a.outcome, (acquire.account b).entries ++ a.entries,
      (acquire.account b).events ++ a.events⟩ : Account α)) rest

/-! ## Every operation is local -/

instance local_runEach (r : Runner) (strings : List String) : (r.runEach strings).Local := by
  induction strings with
  | nil => exact HandleStep.local_pure ()
  | cons sql rest ih =>
    unfold runEach
    infer_instance

/-- A query from the point on where its SQL is known. -/
def queryRendered (r : Runner) (statement : Statement) (sql : String) : Session QueryResult :=
  match statement with
  | .command (.prepared _ parameters) =>
    r.withHandle (r.connection.prepareStatement sql) [sql] "query" do
      announce "executing_query" sql
      Handle.bind parameters
      (← Handle.queryPrepared).materialize
  | _ =>
    r.withHandle r.connection.createStatement [sql] "query" do
      announce "executing_query" sql
      (← Handle.query sql).materialize

theorem query_eq (r : Runner) (statement : Statement) (visitors : List Visitor) :
    r.query statement visitors = (do
      r.ensureOnline
      let sql ← r.renderSingle statement visitors "query"
      r.queryRendered statement sql) := rfl

instance local_queryRendered (r : Runner) (statement : Statement) (sql : String) :
    (r.queryRendered statement sql).Local := by
  unfold queryRendered
  split <;> infer_instance

instance local_query (r : Runner) (statement : Statement) (visitors : List Visitor) :
    (r.query statement visitors).Local := by
  rw [query_eq]
  infer_instance

/-- An update from the point on where its SQL is known. -/
def updateRendered (r : Runner) (statement : Statement) (sql : String) : Session UpdateResult :=
  match statement with
  | .command (.prepared _ parameters) =>
    r.withHandle (r.connection.prepareStatement sql) [sql] "update" do
      announce "executing_update" sql
      Handle.bind parameters
      return .ofReport (← Handle.updatePrepared)
  | _ =>
    r.withHandle r.connection.createStatement [sql] "update" do
      announce "executing_update" sql
      return .ofReport (← Handle.update sql)

/-- The failure of an update that is given a call. -/
def updateRefusal? : Statement → Option Failure
  | .command (.call _ _) => some (.execution (.unsupported
      "Direct update using a callable statement is not implemented" (some "update")))
  | _ => none

theorem update_eq (r : Runner) (statement : Statement) (visitors : List Visitor) :
    r.update statement visitors = (do
      Session.failIf (updateRefusal? statement)
      r.ensureOnline
      let sql ← r.renderSingle statement visitors "update"
      r.updateRendered statement sql) := by
  cases statement with
  | change change => rfl
  | command command => cases command <;> rfl

instance local_updateRendered (r : Runner) (statement : Statement) (sql : String) :
    (r.updateRendered statement sql).Local := by
  unfold updateRendered
  split <;> infer_instance

instance local_update (r : Runner) (statement : Statement) (visitors : List Visitor) :
    (r.update statement visitors).Local := by
  rw [update_eq]
  infer_instance

instance local_executePrepared (r : Runner) (sql : String) (parameters : List Datum) :
    (r.executePrepared sql parameters).Local := by
  unfold executePrepared
  infer_instance

instance local_executeCommand (r : Runner) (visitors : List Visitor) (command : Command) :
    (r.executeCommand visitors command).Local := by
  refine .bind inferInstance fun _ => ?_
  split <;> infer_instance

instance local_executeAll (r : Runner) (visitors : List Visitor) (commands : List Command) :
    (r.executeAll visitors commands).Local := by
  induction commands with
  | nil => exact Session.local_pure ()
  | cons command rest ih =>
    unfold executeAll
    infer_instance

instance local_executeChange (r : Runner) (statement : Statement) (visitors : List Visitor) :
    (r.executeChange statement visitors).Local := by
  unfold executeChange
  infer_instance

instance local_execute (r : Runner) (statement : Statement) (visitors : List Visitor) :
    (r.execute statement visitors).Local := by
  unfold execute
  split <;> infer_instance

instance local_executeCallable (r : Runner) (statement : Statement) (conduct : Option Conduct)
    (visitors : List Visitor) : (r.executeCallable statement conduct visitors).Local := by
  refine .bind inferInstance fun _ => .bind inferInstance fun rendered => ?_
  split <;> infer_instance

instance local_comment (message : String) : (comment message).Local := by
  unfold comment
  infer_instance

instance local_perform (r : Runner) (operation : Operation) : (r.perform operation).Local := by
  cases operation <;> exact .bind inferInstance fun _ => inferInstance

/-! ## Operations one after another -/

/-- What each turn of a sequence adds to the journal. -/
def segments (r : Runner) (w : World) : List Turn → List (List Entry)
  | [] => []
  | turn :: rest =>
    let after := ((r.perform turn.operation).run (w.under turn.behavior)).2
    after.journal.drop w.journal.length :: segments r after rest

theorem segments_eq (r : Runner) (w : World) (turns : List Turn) :
    r.segments w turns =
      turns.map fun turn => ((r.perform turn.operation).account turn.behavior).entries := by
  induction turns generalizing w with
  | nil => rfl
  | cons turn rest ih =>
    simp only [segments, List.map_cons, Session.run_eq, World.after_journal, World.under_behavior,
      World.under_journal, List.drop_left, ih]

/-- **A run writes down what its operations write down, in their order.** -/
theorem performAll_journal (r : Runner) (w : World) (turns : List Turn) :
    (r.performAll w turns).2.journal = w.journal ++ (r.segments w turns).flatten := by
  induction turns generalizing w with
  | nil => exact (List.append_nil _).symm
  | cons turn rest ih =>
    simp only [performAll, segments, List.flatten_cons, Session.run_eq, ih, World.after_journal,
      World.under_journal, List.drop_left, List.append_assoc]

end Runner

end SqlRunner
