import SqlRunner.Proofs.Schedule

/-!
# Announcements — nothing is run that was not traced before

The runner announces SQL in its trace before it hands it to the driver. Where it does so differs: a
template that is executed is announced before its handle is asked for, everything else once the
handle is there, and of the strings of one leaf each is announced when its turn comes. What can fail
in between differs just as much. Common to all of them is one bit of bookkeeping: SQL that was
announced and not run yet is *owed*, and no more than one string is ever owed.

A step is described by what is owed before it and what is owed after it (`Account.Owes`): an
announcement takes up a debt, running the announced SQL pays it, all else leaves it as it is. Such
steps can be put together like dominoes, and a step that fails leaves a debt at most. A whole
operation starts and ends without one, so what it ran is what it announced, the last announcement
aside if it failed.

Handles that are handed over are left out: who is handed one may make the call as often as he likes,
and announces nothing.
-/

set_option autoImplicit false

namespace SqlRunner

variable {α β : Type} {shape : Shape}

/-! ## What a trace says of an execution -/

namespace Event

/-- The names of the events that announce SQL. -/
def announcing : List String :=
  ["executing_query", "executing_update", "executing_statement", "executing_prepared",
    "executing_callable"]

/-- The SQL that is announced. -/
def announced? (e : Event) : Option String :=
  match e.fields.get? "sql" with
  | some (.text sql) => if e.name ∈ announcing then some sql else none
  | _ => none

end Event

/-- The strings that were announced, in order. -/
def announced (events : List Event) : List String := events.filterMap Event.announced?

theorem announced_append (first second : List Event) :
    announced (first ++ second) = announced first ++ announced second := List.filterMap_append

/-- An event under one of the names announces its SQL. -/
theorem announced_singleton {name : String} (h : name ∈ Event.announcing) (sql : String) :
    announced [⟨name, [("sql", .text sql)]⟩] = [sql] := by
  have one : Event.announced? ⟨name, [("sql", .text sql)]⟩ = some sql := if_pos h
  rw [announced, List.filterMap_cons_some one, List.filterMap_nil]

/-- A handle that cannot be closed is reported, but that announces nothing. -/
theorem announced_releaseEvents (outcome : Except Failure Unit) :
    announced (Session.releaseEvents outcome) = [] := by
  cases outcome with
  | ok value => rfl
  | error failure => rfl

theorem Handle.executed_closing (h : Handle shape) : executed h.closing = [] := by
  rw [Handle.closing]
  split <;> rfl

theorem Cursor.executed_closing (c : Cursor) : executed c.closing = [] := by
  cases c <;> rfl

/-! ## Debts -/

namespace Account

/-- An account that starts where `owed` is announced and not run yet, and that ends with `left`
    still to be run if it ends well. However it ends, what it ran is what was owed and announced, in
    this order, up to one string. -/
def Owes (owed left : Option String) (a : Account α) : Prop :=
  ∃ debt : Option String,
    owed.toList ++ announced a.events = executed a.entries ++ debt.toList ∧
      ∀ value, a.outcome = .ok value → debt = left

/-- What neither announces nor runs anything leaves every debt as it is. -/
theorem owes_of_quiet {a : Account α} (owed : Option String) (events : announced a.events = [])
    (entries : executed a.entries = []) : a.Owes owed owed :=
  ⟨owed, by rw [events, entries, List.append_nil, List.nil_append], fun _ _ => rfl⟩

/-- A request pays what it runs. Refused, it runs nothing. -/
theorem owes_request {owed left : Option String} {refusal? : Option Failure} {answer : α}
    {entries : List Entry} (runs : owed.toList = executed entries ++ left.toList) :
    (request refusal? answer entries).Owes owed left := by
  cases refusal? with
  | some failure =>
    -- what was owed is the debt that is left, as nothing was run for it
    exact ⟨owed, List.append_nil _, fun value ended => by cases ended⟩
  | none => exact ⟨left, (List.append_nil _).trans runs, fun _ _ => rfl⟩

/-- **Debts go from step to step**: what the first leaves is what the second starts with. -/
theorem Owes.bind {owed between left : Option String} {first : Account α} {next : α → Account β}
    (hf : first.Owes owed between) (hn : ∀ value, (next value).Owes between left) :
    (first.bind next).Owes owed left := by
  obtain ⟨debt, covered, paid⟩ := hf
  cases ho : first.outcome with
  | error failure =>
    rw [Account.bind_of_error ho]
    exact ⟨debt, covered, fun value ended => by cases ended⟩
  | ok value =>
    obtain ⟨rest, covered', paid'⟩ := hn value
    rw [paid value ho] at covered
    rw [Account.bind_of_ok ho]
    refine ⟨rest, ?_, paid'⟩
    calc owed.toList ++ announced (first.events ++ (next value).events)
        = (owed.toList ++ announced first.events) ++ announced (next value).events := by
          rw [announced_append, List.append_assoc]
      _ = executed first.entries ++ (between.toList ++ announced (next value).events) := by
          rw [covered, List.append_assoc]
      _ = executed (first.entries ++ (next value).entries) ++ rest.toList := by
          rw [covered', executed_append, List.append_assoc]

/-- Without a debt at either end, what was run is where the announcements begin. It lacks one at
    most, and none if all ended well. -/
theorem Owes.executed_leads {a : Account α} (h : a.Owes none none) :
    executed a.entries <+: announced a.events ∧
      (announced a.events).length ≤ (executed a.entries).length + 1 ∧
        ∀ value, a.outcome = .ok value → announced a.events = executed a.entries := by
  obtain ⟨debt, covered, paid⟩ := h
  have split : announced a.events = executed a.entries ++ debt.toList := covered
  have one : debt.toList.length ≤ 1 := by cases debt <;> simp
  refine ⟨⟨_, split.symm⟩, ?_, fun value ended => ?_⟩
  · rw [split, List.length_append]
    exact Nat.add_le_add_left one _
  · rw [split, paid value ended]
    exact List.append_nil _

end Account

/-! ## Steps on a handle -/

namespace HandleStep

/-- A step on a handle of a scripted connection that was prepared for `template`: it leaves the
    handle so, and what is owed goes from `owed` to `left`. -/
def Owes (template : String) (owed left : Option String) (step : HandleStep shape α) : Prop :=
  ∀ (h : Handle shape) (b : Behavior), h.backing = .scripted → h.sql = template →
    (step.stint h b).handle.backing = .scripted ∧ (step.stint h b).handle.sql = template ∧
      (step.stint h b).toAccount.Owes owed left

variable {template : String} {owed between left : Option String}

theorem Owes.bind {step : HandleStep shape α} {next : α → HandleStep shape β} [step.Local]
    [∀ value, (next value).Local] (hs : step.Owes template owed between)
    (hn : ∀ value, (next value).Owes template between left) :
    (step >>= next).Owes template owed left := by
  intro h b scripted prepared
  obtain ⟨scripted', prepared', owes⟩ := hs h b scripted prepared
  have second (value : α) := hn value (step.stint h b).handle b scripted' prepared'
  have both := owes.bind fun value => (second value).2.2
  rw [stint_bind]
  cases ho : (step.stint h b).outcome with
  | error failure =>
    rw [Stint.bind_of_error ho]
    rw [Account.bind_of_error ho] at both
    exact ⟨scripted', prepared', both⟩
  | ok value =>
    rw [Stint.bind_of_ok ho]
    rw [Account.bind_of_ok ho] at both
    exact ⟨(second value).1, (second value).2.1, both⟩

/-- A step of the session leaves the handle as it is. -/
theorem owes_lift {step : Session α} [step.Local]
    (h : ∀ b, (step.account b).Owes owed left) :
    (liftM step : HandleStep shape α).Owes template owed left := by
  intro handle b scripted prepared
  rw [stint_lift]
  exact ⟨scripted, prepared, h b⟩

theorem owes_pure (value : α) : (pure value : HandleStep shape α).Owes template owed owed := by
  intro h b scripted prepared
  rw [stint_pure]
  exact ⟨scripted, prepared, Account.owes_of_quiet owed rfl rfl⟩

/-- A request leaves what the handle was prepared for. -/
theorem owes_request {step : HandleStep shape α}
    (h : ∀ (handle : Handle shape) (b : Behavior), handle.backing = .scripted →
      handle.sql = template → ∃ after : Handle shape, ∃ refusal? answer entries,
        step.stint handle b = after.request refusal? answer entries ∧
          after.backing = .scripted ∧ after.sql = template ∧
            owed.toList = executed entries ++ left.toList) :
    step.Owes template owed left := by
  intro handle b scripted prepared
  obtain ⟨after, refusal?, answer, entries, stint, scripted', prepared', runs⟩ :=
    h handle b scripted prepared
  rw [stint]
  exact ⟨scripted', prepared', Account.owes_request runs⟩

end HandleStep

namespace Handle

variable {template : String} {owed : Option String}

theorem bind_owes (parameters : List Datum) :
    (bind parameters : HandleStep shape Unit).Owes template owed owed :=
  HandleStep.owes_request fun h b scripted prepared =>
    ⟨_, _, _, _, bind_stint parameters h b, scripted, prepared, by rw [scripted]; rfl⟩

theorem setEscapeProcessing_owes (enabled : Bool) :
    (setEscapeProcessing enabled).Owes template owed owed :=
  HandleStep.owes_request fun h b scripted prepared =>
    ⟨_, _, _, _, setEscapeProcessing_stint enabled h b, scripted, prepared, by rw [scripted]; rfl⟩

theorem execute_owes (sql : String) : (execute sql).Owes template (some sql) none :=
  HandleStep.owes_request fun h b scripted prepared =>
    ⟨_, _, _, _, execute_stint sql h b, scripted, prepared, by rw [scripted]; rfl⟩

theorem query_owes (sql : String) : (query sql).Owes template (some sql) none :=
  HandleStep.owes_request fun h b scripted prepared =>
    ⟨_, _, _, _, query_stint sql h b, scripted, prepared, by rw [scripted]; rfl⟩

theorem update_owes (sql : String) : (update sql).Owes template (some sql) none :=
  HandleStep.owes_request fun h b scripted prepared =>
    ⟨_, _, _, _, update_stint sql h b, scripted, prepared, by rw [scripted]; rfl⟩

theorem executePrepared_owes : executePrepared.Owes template (some template) none :=
  HandleStep.owes_request fun h b scripted prepared =>
    ⟨_, _, _, _, executePrepared_stint h b, scripted, prepared, by rw [scripted, prepared]; rfl⟩

theorem queryPrepared_owes : queryPrepared.Owes template (some template) none :=
  HandleStep.owes_request fun h b scripted prepared =>
    ⟨_, _, _, _, queryPrepared_stint h b, scripted, prepared, by rw [scripted, prepared]; rfl⟩

theorem updatePrepared_owes : updatePrepared.Owes template (some template) none :=
  HandleStep.owes_request fun h b scripted prepared =>
    ⟨_, _, _, _, updatePrepared_stint h b, scripted, prepared, by rw [scripted, prepared]; rfl⟩

theorem call_owes : call.Owes template (some template) none :=
  HandleStep.owes_request fun h b scripted prepared =>
    ⟨_, _, _, _, call_stint_scripted h b scripted, scripted, prepared, by rw [prepared]; rfl⟩

end Handle

/-- Reading a cursor runs nothing. -/
theorem Cursor.materialize_owes {template : String} {owed : Option String} (c : Cursor) :
    (liftM c.materialize : HandleStep shape QueryResult).Owes template owed owed := by
  refine HandleStep.owes_lift fun b => ?_
  rw [Cursor.materialize_account, Session.account_release, Cursor.close_account]
  exact Account.owes_of_quiet owed (announced_releaseEvents _) c.executed_closing

/-! ## Steps of a session -/

/-- A step under which what is owed goes from `owed` to `left`, under every behavior. -/
structure Session.Owes (owed left : Option String) (step : Session α) : Prop where
  isLocal : step.Local
  owes : ∀ b, (step.account b).Owes owed left

namespace Session

variable {owed between left : Option String}

theorem Owes.bind {step : Session α} {next : α → Session β} (hs : step.Owes owed between)
    (hn : ∀ value, (next value).Owes between left) : (step >>= next).Owes owed left := by
  refine ⟨hs.isLocal.bind fun value => (hn value).isLocal, fun b => ?_⟩
  rw [hs.isLocal.account_bind fun value => (hn value).isLocal]
  exact (hs.owes b).bind fun value => (hn value).owes b

/-- A step that only answers or fails. -/
theorem owes_of_silent {step : Session α} [h : step.Local]
    (silent : ∀ b, ∃ outcome, step.account b = ⟨outcome, [], []⟩) : step.Owes owed owed := by
  refine ⟨h, fun b => ?_⟩
  obtain ⟨outcome, account⟩ := silent b
  rw [account]
  exact Account.owes_of_quiet owed rfl rfl

theorem owes_pure (value : α) : (pure value : Session α).Owes owed owed :=
  owes_of_silent fun b => ⟨_, account_pure value b⟩

theorem owes_fail (failure : Failure) : (fail failure : Session α).Owes owed owed :=
  owes_of_silent fun b => ⟨_, account_fail failure b⟩

theorem owes_ofExcept (result : Except Failure α) : (ofExcept result).Owes owed owed :=
  owes_of_silent fun b => ⟨_, account_ofExcept result b⟩

theorem owes_failIf (failure? : Option Failure) : (failIf failure?).Owes owed owed := by
  cases failure? with
  | some failure => exact owes_fail failure
  | none => exact owes_pure ()

end Session

namespace Runner

/-- **An announcement takes up a debt.** -/
theorem announce_owes {event : String} (h : event ∈ Event.announcing) (sql : String) :
    (announce event sql).Owes none (some sql) := by
  refine ⟨inferInstance, fun b => ?_⟩
  rw [announce_account]
  exact ⟨some sql, announced_singleton h sql, fun _ _ => rfl⟩

theorem announce_lifted_owes {template event : String} (h : event ∈ Event.announcing)
    (sql : String) :
    (liftM (announce event sql) : HandleStep shape Unit).Owes template none (some sql) :=
  HandleStep.owes_lift (announce_owes h sql).owes

/-- The loop over strings announces each of them when its turn comes, and then runs it. -/
theorem runEach_owes (r : Runner) (strings : List String) :
    (r.runEach strings).Owes "" none none := by
  induction strings with
  | nil => exact HandleStep.owes_pure ()
  | cons sql rest ih =>
    have ran : (Handle.execute sql >>= fun _ => r.runEach rest).Owes "" (some sql) none :=
      (Handle.execute_owes sql).bind fun _ => ih
    rw [runEach]
    refine (announce_lifted_owes (by decide) sql).bind fun _ => ?_
    split
    · exact (Handle.setEscapeProcessing_owes false).bind fun _ => ran
    · exact ran

/-- **The bracket of an operation** announces nothing and runs nothing itself. What was owed when a
    handle was asked for and refused is owed still. -/
theorem withHandle_owes (r : Runner) {template : String} {entry : Entry} {owed : Option String}
    {sql : List String} {operation : String} {action : HandleStep shape α} [action.Local]
    (quiet : executed [entry] = []) (h : action.Owes template owed none) :
    (r.withHandle (Connection.openScripted template entry) sql operation action).Owes
      owed none := by
  refine ⟨inferInstance, fun b => ?_⟩
  rw [withHandle_account, Connection.openScripted_account]
  cases b.acquireFailure? shape.resource with
  | some failure => exact ⟨owed, List.append_nil _, fun value ended => by cases ended⟩
  | none =>
    -- the handle is closed behind the action, which neither runs nor announces anything
    obtain ⟨-, -, debt, covered, paid⟩ := h { backing := .scripted, sql := template } b rfl rfl
    refine ⟨debt, ?_, fun value ended => ?_⟩
    · show owed.toList ++ announced ([] ++ (_ ++ _)) = executed ([entry] ++ (_ ++ _)) ++ debt.toList
      rw [List.nil_append, announced_append, Handle.releaseEvents, announced_releaseEvents,
        List.append_nil, executed_append, executed_append, quiet, Handle.executed_closing,
        List.append_nil, List.nil_append]
      exact covered
    · exact paid value (of_mapError_eq_ok ended)

theorem ensureOnline_owes (r : Runner) {owed : Option String} :
    r.ensureOnline.Owes owed owed := by
  refine Session.owes_of_silent fun b => ?_
  rw [ensureOnline_account]
  cases r.offlineFailure? with
  | some failure => exact ⟨_, rfl⟩
  | none => exact ⟨_, rfl⟩

/-! ## Operations -/

section

variable (url : String) (withoutDatabase : Bool) (dialect : Dialect)

theorem queryRendered_owes (statement : Statement) (sql : String) :
    (queryRendered ⟨.scripted url withoutDatabase, dialect⟩ statement sql).Owes none none := by
  unfold queryRendered
  split
  case h_1 template parameters =>
    exact withHandle_owes _ rfl ((announce_lifted_owes (by decide) sql).bind fun _ =>
      (Handle.bind_owes parameters).bind fun _ => Handle.queryPrepared_owes.bind fun cursor =>
        cursor.materialize_owes)
  case h_2 =>
    exact withHandle_owes _ rfl ((announce_lifted_owes (by decide) sql).bind fun _ =>
      (Handle.query_owes sql).bind fun cursor => cursor.materialize_owes)

theorem query_owes (statement : Statement) (visitors : List Visitor) :
    (query ⟨.scripted url withoutDatabase, dialect⟩ statement visitors).Owes none none := by
  rw [query_eq]
  exact (ensureOnline_owes _).bind fun _ => (Session.owes_ofExcept _).bind fun sql =>
    queryRendered_owes url withoutDatabase dialect statement sql

theorem updateRendered_owes (statement : Statement) (sql : String) :
    (updateRendered ⟨.scripted url withoutDatabase, dialect⟩ statement sql).Owes none none := by
  unfold updateRendered
  split
  case h_1 template parameters =>
    exact withHandle_owes _ rfl ((announce_lifted_owes (by decide) sql).bind fun _ =>
      (Handle.bind_owes parameters).bind fun _ => Handle.updatePrepared_owes.bind fun _ =>
        HandleStep.owes_pure _)
  case h_2 =>
    exact withHandle_owes _ rfl ((announce_lifted_owes (by decide) sql).bind fun _ =>
      (Handle.update_owes sql).bind fun _ => HandleStep.owes_pure _)

theorem update_owes (statement : Statement) (visitors : List Visitor) :
    (update ⟨.scripted url withoutDatabase, dialect⟩ statement visitors).Owes none none := by
  rw [update_eq]
  exact (Session.owes_failIf _).bind fun _ => (ensureOnline_owes _).bind fun _ =>
    (Session.owes_ofExcept _).bind fun sql =>
      updateRendered_owes url withoutDatabase dialect statement sql

/-- A template is announced before its handle is asked for, so the debt is there when that is
    refused. -/
theorem executePrepared_owes (sql : String) (parameters : List Datum) :
    (executePrepared ⟨.scripted url withoutDatabase, dialect⟩ sql parameters).Owes none none :=
  (announce_owes (by decide) sql).bind fun _ =>
    withHandle_owes _ rfl ((Handle.bind_owes parameters).bind fun _ => Handle.executePrepared_owes)

theorem executeCommand_owes (visitors : List Visitor) (command : Command) :
    (executeCommand ⟨.scripted url withoutDatabase, dialect⟩ visitors command).Owes none none := by
  refine (ensureOnline_owes _).bind fun _ => ?_
  split
  case h_1 sql parameters => exact executePrepared_owes url withoutDatabase dialect sql parameters
  case h_2 =>
    exact (Session.owes_ofExcept _).bind fun strings =>
      withHandle_owes _ rfl (runEach_owes _ strings)

theorem executeAll_owes (visitors : List Visitor) (commands : List Command) :
    (executeAll ⟨.scripted url withoutDatabase, dialect⟩ visitors commands).Owes none none := by
  induction commands with
  | nil => exact Session.owes_pure ()
  | cons command rest ih =>
    exact (executeCommand_owes url withoutDatabase dialect visitors command).bind fun _ => ih

theorem executeChange_owes (statement : Statement) (visitors : List Visitor) :
    (executeChange ⟨.scripted url withoutDatabase, dialect⟩ statement visitors).Owes none none :=
  (ensureOnline_owes _).bind fun _ => (Session.owes_ofExcept _).bind fun commands =>
    executeAll_owes url withoutDatabase dialect visitors commands

theorem execute_owes (statement : Statement) (visitors : List Visitor) :
    (execute ⟨.scripted url withoutDatabase, dialect⟩ statement visitors).Owes none none := by
  cases statement with
  | command command => exact executeCommand_owes url withoutDatabase dialect visitors command
  | change change => exact executeChange_owes url withoutDatabase dialect _ visitors

/-- A call that is made by the runner itself. -/
theorem executeCallable_owes (statement : Statement) (visitors : List Visitor) :
    (executeCallable ⟨.scripted url withoutDatabase, dialect⟩ statement none visitors).Owes
      none none := by
  refine (ensureOnline_owes _).bind fun _ => (Session.owes_ofExcept _).bind fun strings => ?_
  cases strings with
  | nil => exact Session.owes_fail _
  | cons sql rest =>
    exact withHandle_owes _ rfl ((announce_lifted_owes (by decide) sql).bind fun _ =>
      (Handle.bind_owes statement.parameters).bind fun _ => Handle.call_owes)

theorem comment_owes (message : String) : (comment message).Owes none none := by
  refine ⟨inferInstance, fun b => ?_⟩
  rw [comment, Session.account_report]
  exact Account.owes_of_quiet none rfl rfl

end

end Runner

/-- Whether a handle is handed over, and the call is the caller's. -/
def Operation.callsBack : Operation → Bool
  | .call _ (some _) _ => true
  | _ => false

namespace Runner

/-- **Every operation starts and ends without a debt**, unless its caller is handed the handle. -/
theorem perform_owes (url : String) (withoutDatabase : Bool) (dialect : Dialect)
    {operation : Operation} (alone : operation.callsBack = false) :
    (perform ⟨.scripted url withoutDatabase, dialect⟩ operation).Owes none none := by
  cases operation with
  | query statement visitors =>
    exact (query_owes url withoutDatabase dialect statement visitors).bind fun _ =>
      Session.owes_pure _
  | update statement visitors =>
    exact (update_owes url withoutDatabase dialect statement visitors).bind fun _ =>
      Session.owes_pure _
  | execute statement visitors =>
    exact (execute_owes url withoutDatabase dialect statement visitors).bind fun _ =>
      Session.owes_pure _
  | executeChange statement visitors =>
    exact (executeChange_owes url withoutDatabase dialect statement visitors).bind fun _ =>
      Session.owes_pure _
  | call statement conduct visitors =>
    cases conduct with
    | some conduct => cases alone
    | none =>
      exact (executeCallable_owes url withoutDatabase dialect statement visitors).bind fun _ =>
        Session.owes_pure _
  | comment message => exact (comment_owes message).bind fun _ => Session.owes_pure _

/-! ## Operations one after another -/

/-- What becomes of each turn of a sequence: how its operation ends, and what it adds to the journal
    and to the trace. -/
def transcript (r : Runner) (w : World) : List Turn → List (Account Answer)
  | [] => []
  | turn :: rest =>
    let (answer, after) := (r.perform turn.operation).run (w.under turn.behavior)
    ⟨answer, after.journal.drop w.journal.length,
      after.trace.events.drop w.trace.events.length⟩ :: transcript r after rest

end Runner

/-- A recorder that keeps events adds those of an account to its own. -/
theorem World.after_trace {w : World} (recording : w.trace.keeping = true) (a : Account α) :
    (w.after a).trace = { events := w.trace.events ++ a.events } := by
  obtain ⟨behavior, journal, ⟨keeping, events⟩⟩ := w
  cases recording
  exact Recorder.foldl_record a.events events

theorem World.keeping_after {w : World} (recording : w.trace.keeping = true) (a : Account α) :
    (w.after a).trace.keeping = true := by
  rw [World.after_trace recording]

namespace Runner

/-- What is added to the journal and to the trace are the accounts of the operations. -/
theorem transcript_eq (r : Runner) {w : World} (recording : w.trace.keeping = true)
    (turns : List Turn) :
    r.transcript w turns =
      turns.map fun turn => (r.perform turn.operation).account turn.behavior := by
  induction turns generalizing w with
  | nil => rfl
  | cons turn rest ih =>
    have under : (w.under turn.behavior).trace.keeping = true := recording
    simp only [transcript, List.map_cons, Session.run_eq, ih (World.keeping_after under _),
      World.after_journal, World.after_trace under, World.under_behavior, World.under_journal,
      World.under_trace, List.drop_left]

/-- **A run adds up**: its answers are those of the transcript, and its journal and its trace are
    what the operations added, one after another. -/
theorem performAll_transcript (r : Runner) {w : World} (recording : w.trace.keeping = true)
    (turns : List Turn) :
    (r.performAll w turns).1 = (r.transcript w turns).map Account.outcome ∧
      (r.performAll w turns).2.journal =
        w.journal ++ (r.transcript w turns).flatMap Account.entries ∧
      (r.performAll w turns).2.trace.events =
        w.trace.events ++ (r.transcript w turns).flatMap Account.events := by
  induction turns generalizing w with
  | nil => exact ⟨rfl, (List.append_nil _).symm, (List.append_nil _).symm⟩
  | cons turn rest ih =>
    have under : (w.under turn.behavior).trace.keeping = true := recording
    obtain ⟨answers, journal, events⟩ :=
      ih (World.keeping_after under ((r.perform turn.operation).account turn.behavior))
    simp only [performAll, transcript, Session.run_eq, List.map_cons, List.flatMap_cons, answers,
      journal, events, World.after_journal, World.after_trace under, World.under_behavior,
      World.under_journal, World.under_trace, List.drop_left, List.append_assoc, and_self]

/-- **What reaches the driver was traced first.** Operations of any kind run one after another over
    a scripted connection, whatever it answers or refuses at any time and whether or not it claims
    to be online, with a recorder that keeps events. Then the run is its transcript, and in every
    call of it the strings that were run are where the announced strings begin, in order; at most
    one announced string was not run; and none was left out by a call that returned. -/
theorem performAll_announced (url : String) (withoutDatabase : Bool) (dialect : Dialect) (w : World)
    (turns : List Turn) (recording : w.trace.keeping = true)
    (alone : ∀ turn ∈ turns, turn.operation.callsBack = false) :
    let r : Runner := ⟨.scripted url withoutDatabase, dialect⟩
    ((r.performAll w turns).1 = (r.transcript w turns).map Account.outcome ∧
      (r.performAll w turns).2.journal =
        w.journal ++ (r.transcript w turns).flatMap Account.entries ∧
      (r.performAll w turns).2.trace.events =
        w.trace.events ++ (r.transcript w turns).flatMap Account.events) ∧
    ∀ call ∈ r.transcript w turns,
      executed call.entries <+: announced call.events ∧
        (announced call.events).length ≤ (executed call.entries).length + 1 ∧
          ∀ answer, call.outcome = .ok answer →
            announced call.events = executed call.entries := by
  intro r
  refine ⟨r.performAll_transcript recording turns, fun call hc => ?_⟩
  rw [transcript_eq r recording, List.mem_map] at hc
  obtain ⟨turn, among, rfl⟩ := hc
  have owes := perform_owes url withoutDatabase dialect (alone turn among)
  exact (owes.owes turn.behavior).executed_leads

/-- A change that comes to a template the driver refuses, and after it a query of a database that
    refuses nothing any more. -/
theorem performAll_announced_refused :
    let r : Runner := ⟨.scripted "db" false, .sqlite⟩
    let change : Change := .fixed [.command (.raw "UPDATE t" ";" false),
      .command (.prepared "DELETE FROM t" []), .command (.raw "UPDATE u" ";" false)]
    let turns : List Turn :=
      [{ operation := .executeChange (.change change) []
         behavior := { refused := [{ part := "DELETE" }] } },
        { operation := .query (.command (.prepared "DELETE ?" [.int 7])) [] }]
    (∀ turn ∈ turns, turn.operation.callsBack = false) ∧
      ((r.transcript {} turns).map fun call => (executed call.entries, announced call.events)) =
        [(["UPDATE t"], ["UPDATE t", "DELETE FROM t"]), (["DELETE ?"], ["DELETE ?"])] ∧
      ∀ call ∈ r.transcript {} turns,
        executed call.entries <+: announced call.events ∧
          (announced call.events).length ≤ (executed call.entries).length + 1 ∧
            ∀ answer, call.outcome = .ok answer →
              announced call.events = executed call.entries :=
  ⟨by decide, by rfl, (performAll_announced "db" false .sqlite {} _ rfl (by decide)).2⟩

end Runner

end SqlRunner
