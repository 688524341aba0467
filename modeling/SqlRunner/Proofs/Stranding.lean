import SqlRunner.Proofs.CursorLife
import SqlRunner.Proofs.Spelling

/-!
# Stranded cursors — when a raw cursor is left open, and when none is

A cursor that became a handle is closed with it. There is one way not to become one. A prepared
handle opens its cursor first and respells its template after that, and where the markers of the
driver are unknown and the template has one, respelling fails: there is no handle yet that could be
released, and the cursor stays open. The operation fails at the same moment, so it strands one
cursor at most.

`Operation.strands` is the condition under which that happens, read off the operation and the
behavior of the database alone. An account is `Tidy` if its cursors are closed in turn but for the
one that the condition speaks of; every operation is, so there is no other way to leak.
-/

set_option autoImplicit false

namespace SqlRunner

variable {α β : Type} {shape : Shape}

/-! ## When a cursor is stranded -/

/-- Whether preparing a template opens a raw cursor and fails after that. -/
def MarkerStyle.strands (style : MarkerStyle) (b : Behavior) (template : String) : Bool :=
  (b.acquireFailure? .cursor).isNone && !style.spells template

/-- Whether executing a command strands a cursor; only a template is prepared. -/
def Command.strands (style : MarkerStyle) (b : Behavior) : Command → Bool
  | .prepared sql _ => style.strands b sql
  | _ => false

namespace Runner

/-- The failure with which the first of some strings is refused that is refused at all. -/
def firstRefusal? (b : Behavior) (strings : List String) : Option Failure :=
  strings.findSome? b.refusal?

/-- Whether a command runs to its end over a driver: its cursor opens, its text can be had, and no
    string of it is refused. -/
def passes (style : MarkerStyle) (dialect : Dialect) (visitors : List Visitor) (b : Behavior)
    (command : Command) : Bool :=
  (b.acquireFailure? .cursor).isNone &&
    match command with
    | .prepared sql _ =>
      match Marker.respell sql style with
      | .ok respelled => (b.refusal? respelled).isNone
      | .error _ => false
    | _ =>
      match Rendering.render dialect visitors (.command command) with
      | .ok strings => (firstRefusal? b strings).isNone
      | .error _ => false

/-- Whether one of some commands strands a cursor, all commands before it having run to their
    end. -/
def strandsAmong (style : MarkerStyle) (dialect : Dialect) (visitors : List Visitor)
    (b : Behavior) : List Command → Bool
  | [] => false
  | command :: rest =>
    command.strands style b ||
      passes style dialect visitors b command && strandsAmong style dialect visitors b rest

end Runner

/-- Whether a statement that is prepared in one piece strands a cursor; only a prepared one is. -/
def Statement.strands (style : MarkerStyle) (b : Behavior) (rendered : Except Failure String) :
    Statement → Bool
  | .command (.prepared _ _) =>
    match rendered with
    | .ok sql => style.strands b sql
    | .error _ => false
  | _ => false

theorem Statement.strands_of_not_prepared {style : MarkerStyle} {b : Behavior}
    {rendered : Except Failure String} {statement : Statement}
    (h : ∀ sql parameters, statement = .command (.prepared sql parameters) → False) :
    statement.strands style b rendered = false := by
  unfold Statement.strands
  split
  · exact absurd rfl (h _ _)
  · rfl

theorem Statement.strands_of_error {style : MarkerStyle} {b : Behavior} {failure : Failure}
    (statement : Statement) : statement.strands style b (.error failure) = false := by
  unfold Statement.strands
  split <;> rfl

/-- Whether an operation over a driver strands a cursor. A query and an update prepare the rendered
    text of a prepared statement; a statement that is executed prepares the templates among its
    commands as they are written. -/
def Operation.strands (style : MarkerStyle) (dialect : Dialect) (b : Behavior) :
    Operation → Bool
  | .query statement visitors =>
    statement.strands style b (Rendering.renderSingle dialect visitors "query" statement)
  | .update statement visitors =>
    statement.strands style b (Rendering.renderSingle dialect visitors "update" statement)
  | .execute statement visitors | .executeChange statement visitors =>
    match statement.expand dialect.name with
    | .ok commands => Runner.strandsAmong style dialect visitors b commands
    | .error _ => false
  | .call _ _ _ | .comment _ => false

/-- A driver of one of the five known styles strands nothing. -/
theorem MarkerStyle.strands_of_known {style : MarkerStyle} (h : ∀ name, style ≠ .other name)
    (b : Behavior) (template : String) : style.strands b template = false := by
  have spelled : style.spells template = true := by
    cases style with
    | other name => exact absurd rfl (h name)
    | _ => rfl
  rw [MarkerStyle.strands, spelled, Bool.not_true, Bool.and_false]

theorem Runner.strandsAmong_of_known {style : MarkerStyle} (h : ∀ name, style ≠ .other name)
    (dialect : Dialect) (visitors : List Visitor) (b : Behavior) (commands : List Command) :
    strandsAmong style dialect visitors b commands = false := by
  induction commands with
  | nil => rfl
  | cons command rest ih =>
    have first : command.strands style b = false := by
      unfold Command.strands
      split
      · exact MarkerStyle.strands_of_known h b _
      · rfl
    rw [strandsAmong, first, ih, Bool.and_false, Bool.or_false]

/-- **Known markers leak nothing**: only drivers of unknown ones strand a cursor. -/
theorem Operation.strands_of_known {style : MarkerStyle} (h : ∀ name, style ≠ .other name)
    (dialect : Dialect) (b : Behavior) (operation : Operation) :
    operation.strands style dialect b = false := by
  have single (statement : Statement) (rendered : Except Failure String) :
      statement.strands style b rendered = false := by
    unfold Statement.strands
    split
    · split
      · exact MarkerStyle.strands_of_known h b _
      · rfl
    · rfl
  cases operation with
  | query statement visitors => exact single statement _
  | update statement visitors => exact single statement _
  | execute statement visitors | executeChange statement visitors =>
    rw [Operation.strands]
    split
    · exact Runner.strandsAmong_of_known h dialect visitors b _
    · rfl
  | call statement conduct visitors => rfl
  | comment message => rfl

/-! ## Operations -/

/-- The raw cursors of something that is over: closed in turn, and then, if one was stranded, one
    that is open, and with which it all ended in a failure. -/
def Account.Tidy (a : Account α) (stranded : Bool) : Prop :=
  (∃ n, cursorLife a.entries = closedCursors n ++ if stranded then [.opened] else []) ∧
    (stranded = true → ∃ failure, a.outcome = .error failure)

theorem Account.tidy_of_silent {a : Account α} (h : a.entries = []) : a.Tidy false :=
  ⟨⟨0, by rw [h]; rfl⟩, fun stranded => absurd stranded (by decide)⟩

/-- What is made of the answer does not matter. -/
theorem Account.Tidy.answer {a : Account α} {stranded : Bool} (h : a.Tidy stranded)
    (f : α → β) : (a.bind fun value => ⟨.ok (f value), [], []⟩).Tidy stranded := by
  obtain ⟨⟨n, life⟩, failed⟩ := h
  cases ho : a.outcome with
  | error failure =>
    rw [Account.bind_of_error ho]
    exact ⟨⟨n, life⟩, fun _ => ⟨failure, rfl⟩⟩
  | ok value =>
    rw [Account.bind_of_ok ho]
    refine ⟨⟨n, by rw [List.append_nil, life]⟩, fun left => ?_⟩
    obtain ⟨failure, hf⟩ := failed left
    rw [ho] at hf
    cases hf

namespace Runner

/-- **Around a step that minds its cursor an operation is one life**, if the cursor becomes a
    handle. -/
theorem withHandle_tidy (r : Runner) {acquire : Session (Handle shape)} {sql : List String}
    {operation : String} {action : HandleStep shape α} [acquire.Local] [action.Local]
    {b : Behavior} {refusal? : Option Failure} {handle : Handle shape}
    (acquired : acquire.account b = .request refusal? handle [.cursorOpened])
    (raw : handle.backing ≠ .scripted) (fresh : handle.closing = [.closed .cursor])
    (minds : action.Minds) :
    ((r.withHandle acquire sql operation action).account b).Tidy false := by
  rw [withHandle_account, acquired]
  refine ⟨?_, fun stranded => absurd stranded (by decide)⟩
  cases refusal? with
  | some failure => exact ⟨0, rfl⟩
  | none =>
    obtain ⟨-, life⟩ := minds handle b raw
    refine ⟨1, ?_⟩
    simp only [Account.request_none]
    rw [cursorLife_append, life, fresh]
    rfl

theorem withPrepared_tidy (url : String) (style : MarkerStyle) (dialect : Dialect)
    (template : String) {sql : List String} {operation : String}
    {action : HandleStep .prepared α} [action.Local] (minds : action.Minds) (b : Behavior) :
    (((⟨.adapted url style, dialect⟩ : Runner).withHandle
      (Connection.prepareStatement template (.adapted url style)) sql operation action).account
        b).Tidy (style.strands b template) := by
  have acquired := Connection.prepareStatement_adapted url style template b
  rw [MarkerStyle.strands]
  cases hs : style.spells template with
  | true =>
    obtain ⟨respelled, hr⟩ := Marker.respell_of_spells hs
    rw [Bool.not_true, Bool.and_false]
    have given : (Connection.prepareStatement template (.adapted url style)).account b =
        .request (b.acquireFailure? .cursor)
          { backing := .cursor style b.rowCount, sql := respelled } [.cursorOpened] := by
      rw [acquired, hr]
      cases b.acquireFailure? .cursor <;> rfl
    exact withHandle_tidy _ given (by simp) rfl minds
  | false =>
    -- the cursor is open, and the failure comes before there is a handle to release
    obtain ⟨name, rfl, hr⟩ := Marker.respell_of_not_spells hs
    rw [withHandle_account, acquired, hr]
    cases b.acquireFailure? .cursor with
    | some failure => exact ⟨⟨0, rfl⟩, fun _ => ⟨_, rfl⟩⟩
    | none => exact ⟨⟨0, rfl⟩, fun _ => ⟨_, rfl⟩⟩

/-- A runner over a driver. -/
abbrev overDriver (url : String) (style : MarkerStyle) (dialect : Dialect) : Runner :=
  ⟨.adapted url style, dialect⟩

section

variable (url : String) (style : MarkerStyle) (dialect : Dialect) (b : Behavior)

/-- A driver is online. -/
theorem ensureOnline_overDriver :
    (overDriver url style dialect).ensureOnline.account b = ⟨.ok (), [], []⟩ :=
  (overDriver url style dialect).ensureOnline_account b

theorem withCreated_tidy {sql : List String} {operation : String} {action : HandleStep .plain α}
    [action.Local] (minds : action.Minds) :
    (((overDriver url style dialect).withHandle
      (Connection.createStatement (.adapted url style)) sql operation action).account b).Tidy
        false :=
  withHandle_tidy _ (Connection.createStatement_adapted url style b) (by simp) rfl minds

theorem announce_minds (event sql : String) :
    (liftM (announce event sql) : HandleStep shape Unit).Minds :=
  HandleStep.minds_lift fun b => by rw [announce_account]

theorem queryRendered_tidy (statement : Statement) (sql : String) :
    (((overDriver url style dialect).queryRendered statement sql).account b).Tidy
      (statement.strands style b (.ok sql)) := by
  unfold queryRendered
  split
  · exact withPrepared_tidy url style dialect sql
      ((announce_minds _ sql).bind fun _ => (Handle.bind_leaves _).minds.bind fun _ =>
        Handle.queryPrepared_materialize_minds) b
  case h_2 other =>
    rw [Statement.strands_of_not_prepared other]
    exact withCreated_tidy url style dialect b
      ((announce_minds _ sql).bind fun _ => Handle.query_materialize_minds sql)

theorem updateRendered_tidy (statement : Statement) (sql : String) :
    (((overDriver url style dialect).updateRendered statement sql).account b).Tidy
      (statement.strands style b (.ok sql)) := by
  unfold updateRendered
  split
  · exact withPrepared_tidy url style dialect sql
      ((announce_minds _ sql).bind fun _ => (Handle.bind_leaves _).minds.bind fun _ =>
        Handle.updatePrepared_leaves.minds.bind fun _ => HandleStep.minds_pure _) b
  case h_2 other =>
    rw [Statement.strands_of_not_prepared other]
    exact withCreated_tidy url style dialect b
      ((announce_minds _ sql).bind fun _ => (Handle.update_leaves sql).minds.bind fun _ =>
        HandleStep.minds_pure _)

/-- What comes after rendering in one piece is all there is to a statement's life. -/
theorem renderSingle_bind_tidy (statement : Statement) (visitors : List Visitor)
    (operation : String) (next : String → Session α)
    (hn : ∀ sql, ((next sql).account b).Tidy (statement.strands style b (.ok sql))) :
    (((overDriver url style dialect).renderSingle statement visitors operation >>=
      next).account b).Tidy
        (statement.strands style b
          (Rendering.renderSingle dialect visitors operation statement)) := by
  cases hr : Rendering.renderSingle dialect visitors operation statement with
  | error failure =>
    have rendered := (overDriver url style dialect).renderSingle_account_of hr b
    rw [Session.account_bind_of_failure next rendered, Statement.strands_of_error]
    exact Account.tidy_of_silent rfl
  | ok sql =>
    have rendered := (overDriver url style dialect).renderSingle_account_of hr b
    rw [Session.account_bind_of_answer next rendered]
    exact hn sql

theorem query_tidy (statement : Statement) (visitors : List Visitor) :
    (((overDriver url style dialect).query statement visitors).account b).Tidy
      (statement.strands style b
        (Rendering.renderSingle dialect visitors "query" statement)) := by
  rw [query_eq, Session.account_bind_of_answer _ (ensureOnline_overDriver url style dialect b)]
  exact renderSingle_bind_tidy url style dialect b statement visitors "query" _
    (queryRendered_tidy url style dialect b statement)

theorem update_tidy (statement : Statement) (visitors : List Visitor) :
    (((overDriver url style dialect).update statement visitors).account b).Tidy
      (statement.strands style b
        (Rendering.renderSingle dialect visitors "update" statement)) := by
  rw [update_eq]
  cases hr : updateRefusal? statement with
  | some failure =>
    rw [Session.account_bind_of_failure _ (Session.account_failIf (some failure) b),
      Statement.strands_of_not_prepared]
    · exact Account.tidy_of_silent rfl
    · rintro sql parameters rfl
      cases hr
  | none =>
    rw [Session.account_bind_of_answer _ (Session.account_failIf none b),
      Session.account_bind_of_answer _ (ensureOnline_overDriver url style dialect b)]
    exact renderSingle_bind_tidy url style dialect b statement visitors "update" _
      (updateRendered_tidy url style dialect b statement)

/-- Strings one after another end with the first refusal among them. -/
theorem runEach_outcome (r : Runner) (strings : List String) (h : Handle .plain) :
    ((r.runEach strings).stint h b).outcome =
      (firstRefusal? b strings).elim (.ok ()) .error := by
  induction strings generalizing h with
  | nil => rw [runEach, HandleStep.stint_pure]; rfl
  | cons sql rest ih =>
    -- switching the escape mode never fails, so both ways come down to running the string
    have ran (left : Handle .plain) :
        ((Handle.execute sql >>= fun _ => r.runEach rest).stint left b).outcome =
          (firstRefusal? b (sql :: rest)).elim (.ok ()) .error := by
      rw [HandleStep.stint_bind, Handle.execute_stint, firstRefusal?, List.findSome?_cons]
      cases b.refusal? sql with
      | some failure => rfl
      | none => exact ih left
    rw [runEach, HandleStep.stint_bind, HandleStep.stint_lift, announce_account, Stint.ok_bind]
    split
    · rw [HandleStep.stint_bind, Handle.setEscapeProcessing_stint]
      exact ran _
    · exact ran _

/-- A command passes exactly when it ends without a failure. -/
theorem executeCommand_isOk (visitors : List Visitor) (command : Command) :
    (((overDriver url style dialect).executeCommand visitors command).account b).outcome.isOk =
      passes style dialect visitors b command := by
  unfold executeCommand
  rw [Session.account_bind_of_answer _ (ensureOnline_overDriver url style dialect b)]
  split
  case h_1 sql parameters =>
    rw [executePrepared, Session.account_bind, announce_account, Account.noting_bind,
      withHandle_account, Connection.prepareStatement_adapted, passes]
    cases b.acquireFailure? .cursor with
    | some failure => rfl
    | none =>
      cases Marker.respell sql style with
      | error fault => rfl
      | ok respelled =>
        have ran : ((Handle.bind parameters >>= fun _ => Handle.executePrepared).stint
            { backing := .cursor style b.rowCount, sql := respelled } b).outcome =
              (b.refusal? respelled).elim (.ok ()) .error := by
          rw [HandleStep.stint_bind, Handle.bind_stint]
          show (Handle.executePrepared.stint _ b).outcome = _
          rw [Handle.executePrepared_stint]
          exact Account.request_outcome _ _ _
        show (Except.mapError _ _).isOk = (b.refusal? respelled).isNone
        rw [ran]
        cases b.refusal? respelled <;> rfl
  case h_2 other =>
    have passed : passes style dialect visitors b command =
        ((b.acquireFailure? .cursor).isNone &&
          match Rendering.render dialect visitors (.command command) with
          | .ok strings => (firstRefusal? b strings).isNone
          | .error _ => false) := by
      unfold passes
      split
      · exact absurd rfl (other _ _)
      · rfl
    rw [passed]
    cases hr : Rendering.render dialect visitors (.command command) with
    | error fault =>
      have rendered := (overDriver url style dialect).render_account_of_error hr b
      rw [Session.account_bind_of_failure _ rendered, Bool.and_false]
      rfl
    | ok strings =>
      have rendered := (overDriver url style dialect).render_account_of_ok hr b
      rw [Session.account_bind_of_answer _ rendered, withHandle_account,
        Connection.createStatement_adapted]
      cases b.acquireFailure? .cursor with
      | some failure => rfl
      | none =>
        show (Except.mapError _ _).isOk = (firstRefusal? b strings).isNone
        rw [runEach_outcome]
        cases firstRefusal? b strings <;> rfl

theorem executePrepared_tidy (sql : String) (parameters : List Datum) :
    (((overDriver url style dialect).executePrepared sql parameters).account b).Tidy
      (style.strands b sql) := by
  rw [executePrepared, Session.account_bind, announce_account, Account.noting_bind]
  exact withPrepared_tidy url style dialect sql
    ((Handle.bind_leaves parameters).minds.bind fun _ => Handle.executePrepared_leaves.minds) b

theorem runEach_minds (r : Runner) (strings : List String) : (r.runEach strings).Minds := by
  induction strings with
  | nil => exact HandleStep.minds_pure ()
  | cons sql rest ih =>
    rw [runEach]
    refine (announce_minds _ sql).bind fun _ => ?_
    split
    · exact (Handle.setEscapeProcessing_leaves false).minds.bind fun _ =>
        (Handle.execute_leaves sql).minds.bind fun _ => ih
    · exact (Handle.execute_leaves sql).minds.bind fun _ => ih

theorem executeCommand_tidy (visitors : List Visitor) (command : Command) :
    (((overDriver url style dialect).executeCommand visitors command).account b).Tidy
      (command.strands style b) := by
  unfold executeCommand
  rw [Session.account_bind_of_answer _ (ensureOnline_overDriver url style dialect b)]
  split
  · exact executePrepared_tidy url style dialect b _ _
  case h_2 other =>
    have none : command.strands style b = false := by
      unfold Command.strands
      split
      · exact absurd rfl (other _ _)
      · rfl
    rw [none]
    cases hr : Rendering.render dialect visitors (.command command) with
    | error fault =>
      have rendered := (overDriver url style dialect).render_account_of_error hr b
      rw [Session.account_bind_of_failure _ rendered]
      exact Account.tidy_of_silent rfl
    | ok strings =>
      have rendered := (overDriver url style dialect).render_account_of_ok hr b
      rw [Session.account_bind_of_answer _ rendered]
      exact withCreated_tidy url style dialect b (runEach_minds _ strings)

/-- **Commands strand what the first of them strands that is reached**, and are over with it. -/
theorem executeAll_tidy (visitors : List Visitor) (commands : List Command) :
    (((overDriver url style dialect).executeAll visitors commands).account b).Tidy
      (strandsAmong style dialect visitors b commands) := by
  induction commands with
  | nil => exact Account.tidy_of_silent rfl
  | cons command rest ih =>
    have first := executeCommand_tidy url style dialect b visitors command
    have ended := executeCommand_isOk url style dialect b visitors command
    rw [executeAll, Session.account_bind, strandsAmong, ← ended]
    obtain ⟨⟨n, life⟩, failed⟩ := first
    cases ho : (((overDriver url style dialect).executeCommand visitors command).account
        b).outcome with
    | error failure =>
      rw [Account.bind_of_error ho]
      refine ⟨⟨n, ?_⟩, fun _ => ⟨failure, rfl⟩⟩
      rw [life]
      simp [Except.isOk, Except.toBool]
    | ok value =>
      rw [Account.bind_of_ok ho]
      -- a command that strands a cursor fails, and this one did not
      have closed : command.strands style b = false := by
        cases hc : command.strands style b with
        | false => rfl
        | true =>
          obtain ⟨failure, hf⟩ := failed hc
          rw [ho] at hf
          cases hf
      obtain ⟨⟨m, others⟩, failed'⟩ := ih
      rw [closed] at life ⊢
      refine ⟨⟨n + m, ?_⟩, fun left => failed' left⟩
      rw [cursorLife_append, life, others, closedCursors_add]
      simp [Except.isOk, Except.toBool]

theorem executeChange_tidy (statement : Statement) (visitors : List Visitor) :
    (((overDriver url style dialect).executeChange statement visitors).account b).Tidy
      (Operation.strands style dialect b (.executeChange statement visitors)) := by
  rw [executeChange, Operation.strands,
    Session.account_bind_of_answer _ (ensureOnline_overDriver url style dialect b)]
  cases he : statement.expand dialect.name with
  | error fault =>
    rw [Session.account_bind_of_failure _ (Session.account_ofFault (.error fault) b)]
    exact Account.tidy_of_silent rfl
  | ok commands =>
    rw [Session.account_bind_of_answer _ (Session.account_ofFault (.ok commands) b)]
    exact executeAll_tidy url style dialect b visitors commands

/-- A command that is executed on its own is a statement of one command. -/
theorem execute_tidy (statement : Statement) (visitors : List Visitor) :
    (((overDriver url style dialect).execute statement visitors).account b).Tidy
      (Operation.strands style dialect b (.execute statement visitors)) := by
  cases statement with
  | change change => exact executeChange_tidy url style dialect b _ visitors
  | command command =>
    have alone : strandsAmong style dialect visitors b [command] = command.strands style b := by
      rw [strandsAmong, strandsAmong, Bool.and_false, Bool.or_false]
    show Account.Tidy _ (strandsAmong style dialect visitors b [command])
    rw [alone]
    exact executeCommand_tidy url style dialect b visitors command

theorem executeCallable_tidy (statement : Statement) (conduct : Option Conduct)
    (visitors : List Visitor) :
    (((overDriver url style dialect).executeCallable statement conduct visitors).account b).Tidy
      false := by
  unfold executeCallable
  rw [Session.account_bind_of_answer _ (ensureOnline_overDriver url style dialect b)]
  cases hr : Rendering.render dialect visitors statement with
  | error fault =>
    have rendered := (overDriver url style dialect).render_account_of_error hr b
    rw [Session.account_bind_of_failure _ rendered]
    exact Account.tidy_of_silent rfl
  | ok strings =>
    have rendered := (overDriver url style dialect).render_account_of_ok hr b
    rw [Session.account_bind_of_answer _ rendered]
    cases strings with
    | nil => exact Account.tidy_of_silent (by rw [Session.account_fail])
    | cons sql rest =>
      exact withHandle_tidy _ (Connection.prepareCall_adapted url style sql b) (by simp) rfl
        ((announce_minds _ sql).bind fun _ => (Handle.bind_leaves _).minds.bind fun _ =>
          Handle.handOver_minds conduct)

theorem perform_tidy (operation : Operation) :
    (((overDriver url style dialect).perform operation).account b).Tidy
      (operation.strands style dialect b) := by
  cases operation with
  | query statement visitors =>
    simp only [perform, Session.account_bind, Session.account_pure]
    exact (query_tidy url style dialect b statement visitors).answer _
  | update statement visitors =>
    simp only [perform, Session.account_bind, Session.account_pure]
    exact (update_tidy url style dialect b statement visitors).answer _
  | execute statement visitors =>
    simp only [perform, Session.account_bind, Session.account_pure]
    exact (execute_tidy url style dialect b statement visitors).answer _
  | executeChange statement visitors =>
    simp only [perform, Session.account_bind, Session.account_pure]
    exact (executeChange_tidy url style dialect b statement visitors).answer _
  | call statement conduct visitors =>
    simp only [perform, Session.account_bind, Session.account_pure]
    exact (executeCallable_tidy url style dialect b statement conduct visitors).answer _
  | comment message =>
    simp only [perform, comment, Session.account_bind, Session.account_pure,
      Session.account_report]
    exact Account.tidy_of_silent rfl

end

/-- **Where raw cursors leak, and that they leak nowhere else.** Over a driver with any style of
    markers, an operation opens cursors one after another and closes each once before the next, and
    it leaves one open exactly when it strands one. So as many are closed as were opened if and only
    if none is stranded. -/
theorem perform_cursorLife (url : String) (style : MarkerStyle) (dialect : Dialect) (w : World)
    (operation : Operation) :
    ∃ log, (((overDriver url style dialect).perform operation).run w).2.journal =
        w.journal ++ log ∧
      (∃ n, cursorLife log = closedCursors n ++
        if operation.strands style dialect w.behavior then [.opened] else []) ∧
      ((cursorLife log).count .opened = (cursorLife log).count .closed ↔
        operation.strands style dialect w.behavior = false) := by
  obtain ⟨⟨n, life⟩, -⟩ := perform_tidy url style dialect w.behavior operation
  refine ⟨(((overDriver url style dialect).perform operation).account w.behavior).entries,
    by rw [Session.run_eq, World.after_journal], ⟨n, life⟩, ?_⟩
  rw [life, List.count_append, List.count_append, count_opened_closedCursors,
    count_closed_closedCursors]
  cases operation.strands style dialect w.behavior with
  | true => simp
  | false => simp

/-- A query of a template with a marker, over a driver whose markers are unknown: its cursor is
    opened and stays open. -/
theorem query_leaks_cursor :
    let journal := (((overDriver "db://raw" (.ofName "pyformatted") .sqlite).perform
      (.query (.command (.prepared "SELECT ?" [.int 7])) [])).run {}).2.journal
    (cursorLife journal).count .opened ≠ (cursorLife journal).count .closed := by
  decide +kernel

end Runner

end SqlRunner
