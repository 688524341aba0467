import SqlRunner.Proofs.Account.Runner

/-!
# Changes of one command — when the wrapping shows

A change that holds one command and nothing else expands to that command for every dialect. It is
rendered as the command is, so one would expect that it makes no difference to an operation which of
the two it is given. To `execute` it makes none. The other operations look at the statement itself
before it is expanded, to choose the handle and to find the parameters, and a change has neither a
kind nor parameters of its own:

* a query and an update of a wrapped template run its text through a plain handle, with nothing
  bound;
* an update of a wrapped call is not refused;
* a wrapped call is made with no parameters.

`Use.transparent` is the exact condition under which this does not show: nothing was to be bound, or
the operation ends before it could be, and in the same way. The two are compared in every world, by
their answers, by the kinds of their errors, and by the calls that reach the driver.
-/

set_option autoImplicit false

namespace SqlRunner

variable {α β : Type} {shape : Shape}

/-- A change of one command and nothing else. -/
def Command.wrapped (command : Command) : Statement := .change (.fixed [.command command])

theorem Command.expand_wrapped (dialect : String) (command : Command) :
    command.wrapped.expand dialect = .ok [command] := by
  simp only [Command.wrapped, Statement.expand, Change.expand, expandAll]
  rfl

/-- **Rendering sees through a change.** -/
theorem Command.render_wrapped (dialect : Dialect) (visitors : List Visitor)
    (command : Command) :
    Rendering.render dialect visitors command.wrapped =
      Rendering.render dialect visitors (.command command) := by
  have alone : (Statement.command command).expand dialect.name = .ok [command] := by
    rw [Statement.expand]
  simp only [Rendering.render, Rendering.generate, Command.expand_wrapped, alone]

theorem Command.renderSingle_wrapped (dialect : Dialect) (visitors : List Visitor)
    (operation : String) (command : Command) :
    Rendering.renderSingle dialect visitors operation command.wrapped =
      Rendering.renderSingle dialect visitors operation (.command command) := by
  rw [Rendering.renderSingle, Rendering.renderSingle, Command.render_wrapped]

/-! ## What callers and drivers can tell apart -/

namespace Failure

/-- What callers match a failure on: the kind of an execution error, and a fault for what it is. -/
def kind : Failure → Fault ⊕ ErrorKind
  | .fault raised => .inl raised
  | .execution error => .inr error.kind

theorem kind_execution (error : ExecutionError) : kind (.execution error) = .inr error.kind := rfl

/-- The kind of the error that leaves an operation which met the failure on its way. -/
def leavingKind : Failure → ErrorKind
  | .fault _ => .driverFailure
  | .execution error => error.kind

theorem kind_leaving (r : Runner) (sql : List String) (operation : String) (failure : Failure) :
    (r.leaving sql operation failure).kind = .inr failure.leavingKind := by
  cases failure <;> rfl

end Failure

namespace Account

/-- Accounts that neither a caller nor a driver can tell apart: the same answer, or errors of the
    same kind, and the same calls. -/
def Agrees (a b : Account α) : Prop :=
  a.outcome.mapError Failure.kind = b.outcome.mapError Failure.kind ∧ a.entries = b.entries

theorem Agrees.refl (a : Account α) : a.Agrees a := ⟨rfl, rfl⟩

/-- An answer is as good as what is made of it, if nothing is lost. -/
theorem agrees_answer_iff {f : α → β} (injective : ∀ x y, f x = f y → x = y) (a b : Account α) :
    (a.bind fun value => ⟨.ok (f value), [], []⟩).Agrees
      (b.bind fun value => ⟨.ok (f value), [], []⟩) ↔ a.Agrees b := by
  obtain ⟨outcome, entries, events⟩ := a
  obtain ⟨outcome', entries', events'⟩ := b
  cases outcome with
  | error failure =>
    cases outcome' with
    | error failure' => simp [Agrees]
    | ok value' => simp [Agrees]
  | ok value =>
    cases outcome' with
    | error failure' => simp [Agrees]
    | ok value' =>
      have same : f value = f value' ↔ value = value' :=
        ⟨injective value value', congrArg f⟩
      simp [Agrees, same]

end Account

/-! ## When the wrapping does not show -/

/-- The ways to use a statement. -/
inductive Use where
  | query
  | update
  | execute
  | executeCallable (conduct : Option Conduct)

/-- Whether neither of two resources is to be had, and the errors are of one kind. -/
def Behavior.refusesAlike (b : Behavior) (resource resource' : Resource) : Bool :=
  match b.acquireFailure? resource, b.acquireFailure? resource' with
  | some failure, some failure' => failure.leavingKind == failure'.leavingKind
  | _, _ => false

namespace Use

/-- A statement put to use. -/
def on (statement : Statement) (visitors : List Visitor) : Use → Operation
  | query => .query statement visitors
  | update => .update statement visitors
  | execute => .execute statement visitors
  | executeCallable conduct => .call statement conduct visitors

/-- Whether a template that is put to use in one piece comes to no handle, and to the same error
    through either kind of it: the connection is offline, or it does not render to one string, or
    both kinds are refused alike. -/
def comesToNothing (offline : Bool) (b : Behavior) (rendered : Except Failure String) : Bool :=
  offline || !rendered.isOk || b.refusesAlike .statement .prepared

/-- Whether a plain handle is asked for and refused as something that is not supported. -/
def refusedAsUnsupported (offline : Bool) (b : Behavior) (rendered : Except Failure String) :
    Bool :=
  !offline && rendered.isOk &&
    (b.acquireFailure? .statement).any fun failure => failure.leavingKind == .unsupported

/-- Whether it makes no difference that a command is wrapped. -/
def transparent (offline : Bool) (dialect : Dialect) (visitors : List Visitor) (b : Behavior)
    (command : Command) : Use → Bool
  | execute => true
  | query =>
    match command with
    | .prepared _ _ => comesToNothing offline b
        (Rendering.renderSingle dialect visitors "query" (.command command))
    | _ => true
  | update =>
    match command with
    | .prepared _ _ => comesToNothing offline b
        (Rendering.renderSingle dialect visitors "update" (.command command))
    | .call _ _ => refusedAsUnsupported offline b
        (Rendering.renderSingle dialect visitors "update" (.command command))
    | _ => true
  | executeCallable _ =>
    command.parameters.isEmpty || offline ||
      (match Rendering.render dialect visitors (.command command) with
        | .ok (_ :: _) => false
        | _ => true) ||
      (b.acquireFailure? .callable).isSome || (Backing.scripted.bindFailure? b).isSome

end Use

namespace Runner

section

variable (url : String) (offline : Bool) (dialect : Dialect) (b : Behavior)

/-- A runner over a scripted connection, online or not. -/
abbrev overFake (url : String) (offline : Bool) (dialect : Dialect) : Runner :=
  ⟨.scripted url offline, dialect⟩

section

variable (r : Runner) {acquire : Session (Handle shape)} (action : HandleStep shape α)
  [acquire.Local] [action.Local] {handle : Handle shape} {entry : Entry} (sql : List String)
  (operation : String)

/-- A bracket without a handle is over with the failure of its acquisition. -/
theorem bracket_refused {failure : Failure}
    (acquired : acquire.account b = .request (some failure) handle [entry]) :
    (r.withHandle acquire sql operation action).account b =
      ⟨.error (r.leaving sql operation failure), [], []⟩ := by
  rw [withHandle_account, acquired]
  rfl

/-- A bracket with a handle begins with its acquisition. -/
theorem bracket_begins (acquired : acquire.account b = .request none handle [entry]) :
    ∃ rest, ((r.withHandle acquire sql operation action).account b).entries = entry :: rest := by
  rw [withHandle_account, acquired]
  exact ⟨_, rfl⟩

end

/-- **Brackets of different handles show**, unless both handles are refused alike. -/
theorem brackets_agree_iff (r : Runner) {shape shape' : Shape}
    {acquire : Session (Handle shape)} {acquire' : Session (Handle shape')}
    {action : HandleStep shape α} {action' : HandleStep shape' α} [acquire.Local]
    [acquire'.Local] [action.Local] [action'.Local] {resource resource' : Resource}
    {handle : Handle shape} {handle' : Handle shape'} {entry entry' : Entry} (sql : List String)
    (operation : String)
    (acquired : acquire.account b = .request (b.acquireFailure? resource) handle [entry])
    (acquired' : acquire'.account b = .request (b.acquireFailure? resource') handle' [entry'])
    (differ : entry ≠ entry') :
    ((r.withHandle acquire sql operation action).account b).Agrees
        ((r.withHandle acquire' sql operation action').account b) ↔
      b.refusesAlike resource resource' = true := by
  rw [Account.Agrees, Behavior.refusesAlike]
  -- a bracket that gets its handle writes it down, and one that does not writes nothing
  cases hr : b.acquireFailure? resource with
  | some failure =>
    rw [hr] at acquired
    have refused := bracket_refused b r action sql operation acquired
    cases hr' : b.acquireFailure? resource' with
    | some failure' =>
      rw [hr'] at acquired'
      have refused' := bracket_refused b r action' sql operation acquired'
      simp [refused, refused', Failure.kind_leaving]
    | none =>
      rw [hr'] at acquired'
      obtain ⟨rest', begins'⟩ := bracket_begins b r action' sql operation acquired'
      simp [refused, begins']
  | none =>
    rw [hr] at acquired
    obtain ⟨rest, begins⟩ := bracket_begins b r action sql operation acquired
    cases hr' : b.acquireFailure? resource' with
    | some failure' =>
      rw [hr'] at acquired'
      have refused' := bracket_refused b r action' sql operation acquired'
      simp [begins, refused']
    | none =>
      rw [hr'] at acquired'
      obtain ⟨rest', begins'⟩ := bracket_begins b r action' sql operation acquired'
      simp [begins, begins', differ]

theorem ensureOnline_overFake :
    (overFake url offline dialect).ensureOnline.account b =
      .request (if offline then some (.execution (.connectionUnavailable (some url))) else none)
        () [] := ensureOnline_account _ b

/-- Two ways to use a text in one piece that differ in the handle agree when they come to none, and
    to the same error. -/
theorem single_agrees_iff (statement : Statement) (visitors : List Visitor) (operation : String)
    (next next' : String → Session α)
    (h : ∀ sql, ((next sql).account b).Agrees ((next' sql).account b) ↔
      b.refusesAlike .statement .prepared = true) :
    ((do
        (overFake url offline dialect).ensureOnline
        let sql ← (overFake url offline dialect).renderSingle statement visitors operation
        next sql).account b).Agrees
      ((do
        (overFake url offline dialect).ensureOnline
        let sql ← (overFake url offline dialect).renderSingle statement visitors operation
        next' sql).account b) ↔
      Use.comesToNothing offline b
        (Rendering.renderSingle dialect visitors operation statement) = true := by
  have online := ensureOnline_overFake url offline dialect b
  cases offline with
  | true =>
    rw [Session.account_bind_of_failure _ online, Session.account_bind_of_failure _ online]
    exact ⟨fun _ => rfl, fun _ => .refl _⟩
  | false =>
    rw [Session.account_bind_of_answer _ online, Session.account_bind_of_answer _ online]
    cases hr : Rendering.renderSingle dialect visitors operation statement with
    | error failure =>
      have rendered := (overFake url false dialect).renderSingle_account_of hr b
      rw [Session.account_bind_of_failure _ rendered, Session.account_bind_of_failure _ rendered]
      exact ⟨fun _ => rfl, fun _ => .refl _⟩
    | ok sql =>
      have rendered := (overFake url false dialect).renderSingle_account_of hr b
      rw [Session.account_bind_of_answer _ rendered, Session.account_bind_of_answer _ rendered,
        h sql]
      rfl

/-- What does not render to one string is not refused for what it is. -/
theorem kind_of_renderSingle_error {statement : Statement} {visitors : List Visitor}
    {operation : String} {failure : Failure}
    (h : Rendering.renderSingle dialect visitors operation statement = .error failure) :
    failure.kind ≠ .inr .unsupported := by
  rw [Rendering.renderSingle] at h
  split at h
  · cases h
    simp [Failure.kind]
  · cases h
  · cases h
    simp [Failure.kind, ExecutionError.multiStatement]

theorem query_wrapped (visitors : List Visitor) (command : Command) :
    (overFake url offline dialect).query command.wrapped visitors = (do
      (overFake url offline dialect).ensureOnline
      let sql ← (overFake url offline dialect).renderSingle (.command command) visitors "query"
      (overFake url offline dialect).queryRendered command.wrapped sql) := by
  rw [query_eq, renderSingle, renderSingle, Command.renderSingle_wrapped]

/-- An update does not see that a change is none of the statements it refuses. -/
theorem update_wrapped (visitors : List Visitor) (command : Command) :
    (overFake url offline dialect).update command.wrapped visitors = (do
      (overFake url offline dialect).ensureOnline
      let sql ← (overFake url offline dialect).renderSingle (.command command) visitors "update"
      (overFake url offline dialect).updateRendered command.wrapped sql) := by
  rw [update_eq, renderSingle, renderSingle, Command.renderSingle_wrapped]
  rfl

theorem query_agrees_iff (visitors : List Visitor) (command : Command) :
    (((overFake url offline dialect).query command.wrapped visitors).account b).Agrees
        (((overFake url offline dialect).query (.command command) visitors).account b) ↔
      Use.query.transparent offline dialect visitors b command = true := by
  rw [query_wrapped]
  cases command with
  | prepared sql parameters =>
    refine single_agrees_iff url offline dialect b _ visitors "query" _ _ fun sql => ?_
    exact brackets_agree_iff b _ [sql] "query" (Connection.openScripted_account "" .created b)
      (Connection.openScripted_account sql (.prepared sql) b) (by simp)
  | _ => exact ⟨fun _ => rfl, fun _ => .refl _⟩

/-- **An update of a call is refused, and of a wrapped call it is not**: that one fails otherwise,
    or it comes to a handle. For the two to agree a driver has to refuse the handle with the words
    of the runner. -/
theorem update_call_agrees_iff (visitors : List Visitor) (sql : String)
    (parameters : List Datum) :
    (((overFake url offline dialect).update (Command.call sql parameters).wrapped
        visitors).account b).Agrees
      (((overFake url offline dialect).update (.command (.call sql parameters))
        visitors).account b) ↔
      Use.update.transparent offline dialect visitors b (.call sql parameters) = true := by
  have online := ensureOnline_overFake url offline dialect b
  -- a call is refused before anything else is looked at, even over an offline connection
  have refused : ((overFake url offline dialect).update (.command (.call sql parameters))
      visitors).account b = ⟨.error (.execution (.unsupported
        "Direct update using a callable statement is not implemented" (some "update"))), [], []⟩ :=
    Session.account_bind_of_failure _ (Session.account_fail _ b)
  rw [update_wrapped, refused, Use.transparent, Use.refusedAsUnsupported, Account.Agrees]
  cases offline with
  | true =>
    rw [Session.account_bind_of_failure _ online]
    simp [Failure.kind, ExecutionError.connectionUnavailable,
      ExecutionError.unsupported]
  | false =>
    rw [Session.account_bind_of_answer _ online]
    cases hr : Rendering.renderSingle dialect visitors "update"
      (.command (.call sql parameters)) with
    | error failure =>
      have rendered := (overFake url false dialect).renderSingle_account_of hr b
      have other := kind_of_renderSingle_error dialect hr
      rw [Session.account_bind_of_failure _ rendered]
      refine iff_of_false (fun same => other (Except.error.inj same.1)) ?_
      simp [Except.isOk, Except.toBool]
    | ok text =>
      have rendered := (overFake url false dialect).renderSingle_account_of hr b
      have acquired := @Connection.openScripted_account .plain "" .created b
      rw [Session.account_bind_of_answer _ rendered]
      cases ha : b.acquireFailure? .statement with
      | some failure =>
        rw [Shape.resource, ha] at acquired
        have begins : (((overFake url false dialect).updateRendered
            (Command.call sql parameters).wrapped text).account b) = _ :=
          bracket_refused b _ _ [text] "update" acquired
        simp [begins, Except.isOk, Except.toBool, Failure.kind_leaving,
          Failure.kind_execution, ExecutionError.unsupported]
      | none =>
        rw [Shape.resource, ha] at acquired
        obtain ⟨rest, begins⟩ : ∃ rest, (((overFake url false dialect).updateRendered
            (Command.call sql parameters).wrapped text).account b).entries = .created :: rest :=
          bracket_begins b _ _ [text] "update" acquired
        refine iff_of_false (fun same => ?_) (by simp)
        exact absurd (begins.symm.trans same.2) (by simp)

theorem update_agrees_iff (visitors : List Visitor) (command : Command) :
    (((overFake url offline dialect).update command.wrapped visitors).account b).Agrees
        (((overFake url offline dialect).update (.command command) visitors).account b) ↔
      Use.update.transparent offline dialect visitors b command = true := by
  cases command with
  | call sql parameters =>
    exact update_call_agrees_iff url offline dialect b visitors sql parameters
  | prepared sql parameters =>
    rw [update_wrapped]
    refine single_agrees_iff url offline dialect b _ visitors "update" _ _ fun sql => ?_
    exact brackets_agree_iff b _ [sql] "update" (Connection.openScripted_account "" .created b)
      (Connection.openScripted_account sql (.prepared sql) b) (by simp)
  | _ =>
    rw [update_wrapped]
    exact ⟨fun _ => rfl, fun _ => .refl _⟩

/-- **To execute a wrapped command is to execute the command**, over any connection. -/
theorem execute_wrapped (r : Runner) (visitors : List Visitor) (command : Command) :
    (r.execute command.wrapped visitors).account b =
      (r.execute (.command command) visitors).account b := by
  have online := r.ensureOnline_account b
  have alone : r.executeAll visitors [command] = r.executeCommand visitors command :=
    bind_pure_unit
  show (r.executeChange command.wrapped visitors).account b =
    (r.executeCommand visitors command).account b
  rw [executeChange, Command.expand_wrapped]
  cases hf : r.offlineFailure? with
  | some failure =>
    rw [hf] at online
    unfold executeCommand
    rw [Session.account_bind_of_failure _ online, Session.account_bind_of_failure _ online]
  | none =>
    rw [hf] at online
    rw [Session.account_bind_of_answer _ online,
      Session.account_bind_of_answer _ (Session.account_ofFault (.ok [command]) b), alone]

/-- Binding on a handle of a scripted connection: refused, it is the end, and otherwise it is the
    first thing that is written down. -/
theorem binding_stint (event text : String) (parameters : List Datum)
    (next : HandleStep .callable α) [next.Local] {handle : Handle .callable}
    (scripted : handle.backing = .scripted) :
    let stint := HandleStep.stint (do
      announce event text
      Handle.bind parameters
      next) handle b
    match Backing.scripted.bindFailure? b with
    | some failure => stint.outcome = .error failure ∧ stint.entries = [] ∧
        stint.handle = { handle with parameters := parameters }
    | none => ∃ rest, stint.entries = .bound parameters :: rest := by
  rw [HandleStep.stint_bind, HandleStep.stint_lift, announce_account, Stint.ok_bind,
    HandleStep.stint_bind, Handle.bind_stint, scripted]
  cases Backing.scripted.bindFailure? b with
  | some failure => exact ⟨rfl, rfl, by rw [← scripted]; rfl⟩
  | none => exact ⟨_, rfl⟩

/-- **What is bound shows**, unless there is nothing to bind, or binding is not come to. -/
theorem binding_agrees_iff (r : Runner) {acquire : Session (Handle .callable)}
    {next : HandleStep .callable α} [acquire.Local] [next.Local] {handle : Handle .callable}
    {entry : Entry} (sql : List String) (operation event text : String)
    (scripted : handle.backing = .scripted)
    (acquired : acquire.account b = .request (b.acquireFailure? .callable) handle [entry])
    (parameters : List Datum) :
    ((r.withHandle acquire sql operation (do
        announce event text
        Handle.bind []
        next)).account b).Agrees
      ((r.withHandle acquire sql operation (do
        announce event text
        Handle.bind parameters
        next)).account b) ↔
      (parameters.isEmpty || (b.acquireFailure? .callable).isSome ||
        (Backing.scripted.bindFailure? b).isSome) = true := by
  cases parameters with
  | nil => exact ⟨fun _ => rfl, fun _ => .refl _⟩
  | cons first others =>
    have nothing := binding_stint b event text [] next scripted
    have something := binding_stint b event text (first :: others) next scripted
    rw [withHandle_account, withHandle_account, acquired]
    cases b.acquireFailure? .callable with
    | some failure => exact ⟨fun _ => rfl, fun _ => .refl _⟩
    | none =>
      cases hb : Backing.scripted.bindFailure? b with
      | some failure =>
        rw [hb] at nothing something
        obtain ⟨outcome, entries, left⟩ := nothing
        obtain ⟨outcome', entries', left'⟩ := something
        -- neither binding is written, and the handles that are left are released alike
        refine ⟨fun _ => rfl, fun _ => ⟨?_, ?_⟩⟩
        · simp only [Account.request_none, outcome, outcome']
        · simp only [Account.request_none, entries, entries', left, left']
          rfl
      | none =>
        rw [hb] at nothing something
        obtain ⟨rest, entries⟩ := nothing
        obtain ⟨rest', entries'⟩ := something
        -- both bindings are written, one of nothing and one of something
        refine ⟨fun same => ?_, fun none => absurd none (by simp)⟩
        have entries_eq := same.2
        simp only [Account.request_none, entries, entries'] at entries_eq
        simp at entries_eq

theorem executeCallable_agrees_iff (visitors : List Visitor) (conduct : Option Conduct)
    (command : Command) :
    (((overFake url offline dialect).executeCallable command.wrapped conduct
        visitors).account b).Agrees
      (((overFake url offline dialect).executeCallable (.command command) conduct
        visitors).account b) ↔
      (Use.executeCallable conduct).transparent offline dialect visitors b command = true := by
  have online := ensureOnline_overFake url offline dialect b
  have seen : (overFake url offline dialect).render command.wrapped visitors =
      (overFake url offline dialect).render (.command command) visitors := by
    rw [render, render, Command.render_wrapped]
  unfold executeCallable
  rw [Use.transparent, seen]
  cases offline with
  | true =>
    rw [Session.account_bind_of_failure _ online, Session.account_bind_of_failure _ online]
    exact ⟨fun _ => by simp, fun _ => .refl _⟩
  | false =>
    rw [Session.account_bind_of_answer _ online, Session.account_bind_of_answer _ online]
    cases hr : Rendering.render dialect visitors (.command command) with
    | error fault =>
      have rendered := (overFake url false dialect).render_account_of_error hr b
      rw [Session.account_bind_of_failure _ rendered, Session.account_bind_of_failure _ rendered]
      exact ⟨fun _ => by simp, fun _ => .refl _⟩
    | ok strings =>
      have rendered := (overFake url false dialect).render_account_of_ok hr b
      rw [Session.account_bind_of_answer _ rendered, Session.account_bind_of_answer _ rendered]
      cases strings with
      | nil => exact ⟨fun _ => by simp, fun _ => .refl _⟩
      | cons sql rest =>
        simp only [Bool.or_false]
        exact binding_agrees_iff b _ _ _ _ _ rfl
          (Connection.openScripted_account sql (.preparedCall sql) b) command.parameters

theorem perform_agrees_iff (use : Use) (visitors : List Visitor) (command : Command) :
    (((overFake url offline dialect).perform (use.on command.wrapped visitors)).account b).Agrees
        (((overFake url offline dialect).perform
          (use.on (.command command) visitors)).account b) ↔
      use.transparent offline dialect visitors b command = true := by
  cases use with
  | query =>
    simp only [Use.on, perform, Session.account_bind, Session.account_pure]
    exact (Account.agrees_answer_iff (fun _ _ => Answer.rows.inj) _ _).trans
      (query_agrees_iff url offline dialect b visitors command)
  | update =>
    simp only [Use.on, perform, Session.account_bind, Session.account_pure]
    exact (Account.agrees_answer_iff (fun _ _ => Answer.count.inj) _ _).trans
      (update_agrees_iff url offline dialect b visitors command)
  | execute =>
    simp only [Use.on, perform, Session.account_bind, execute_wrapped]
    exact iff_of_true (.refl _) rfl
  | executeCallable conduct =>
    simp only [Use.on, perform, Session.account_bind, Session.account_pure]
    exact (Account.agrees_answer_iff (fun _ _ => Answer.value.inj) _ _).trans
      (executeCallable_agrees_iff url offline dialect b visitors conduct command)

end

/-- **Where the wrapping of a command shows, and that it shows nowhere else.** Over a scripted
    connection, under any behavior of it and from any world, to use a command in a change and to use
    it as it is comes to the same answer, or to failures of the same kind, and to the same calls
    with the same parameters bound, exactly if the use of it is transparent. -/
theorem perform_wrapped (url : String) (offline : Bool) (dialect : Dialect) (w : World) (use : Use)
    (visitors : List Visitor) (command : Command) :
    let run (statement : Statement) :=
      ((overFake url offline dialect).perform (use.on statement visitors)).run w
    ((run command.wrapped).1.mapError Failure.kind =
          (run (.command command)).1.mapError Failure.kind ∧
        (run command.wrapped).2.journal = (run (.command command)).2.journal) ↔
      use.transparent offline dialect visitors w.behavior command = true := by
  intro run
  simp only [run, Session.run_eq, World.after_journal, List.append_cancel_left_eq]
  exact perform_agrees_iff url offline dialect w.behavior use visitors command

/-- A query of a template in a change: it is run through a plain handle, and nothing is bound. -/
theorem query_shows_wrapping :
    let journal (statement : Statement) := (((overFake "fake" false .sqlite).perform
      (.query statement [])).run {}).2.journal
    journal (Command.prepared "SELECT ?" [.int 7]).wrapped ≠
      journal (.command (.prepared "SELECT ?" [.int 7])) := by
  intro journal same
  exact absurd (congrArg List.length same) (by decide +kernel)

end Runner

end SqlRunner
