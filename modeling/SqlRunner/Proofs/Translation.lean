import SqlRunner.Proofs.Hurdles

/-!
# Translation — how failures leave the runner

An operation has parts that the runner sees to by itself, such as rendering, and parts in which it
uses a handle on behalf of some strings. A failure of the first kind leaves as it is. A failure on
the way of a handle leaves as an execution error: as itself if it is one, and otherwise as a new one
that names its cause, the strings, the address and the operation.

`Runner.stages` lists the parts of an operation from its statement and the behavior of the database,
without running anything, and `firstMishap?` is the first thing that goes wrong in them. Each
operation is measured by its own list (`query_fares` and its like), and what comes of it is the
mishap, translated. Nothing that is done on the way out, closing above all, takes its place.
-/

set_option autoImplicit false

namespace SqlRunner

variable {α β : Type} {shape : Shape}

/-- A part of an operation. -/
inductive Stage where
  /-- Something that the runner sees to itself. -/
  | check (failure? : Option Failure)
  /-- A handle that is asked for and used on behalf of strings, and the hurdles on the way. -/
  | attempt (strings : List String) (hurdles : List Hurdle)

/-- What goes wrong in an operation. -/
inductive Mishap where
  /-- The runner refuses by itself. -/
  | own (failure : Failure)
  /-- A failure was raised on the way of a handle that was used on behalf of strings. -/
  | raised (strings : List String) (failure : Failure)

/-- What goes wrong in a part. -/
def Stage.mishap? (b : Behavior) : Stage → Option Mishap
  | check failure? => failure?.map .own
  | attempt strings hurdles => (firstFailure? b hurdles).map (.raised strings)

/-- What goes wrong first. -/
def firstMishap? (b : Behavior) (stages : List Stage) : Option Mishap :=
  stages.findSome? (Stage.mishap? b)

namespace Runner

/-- The way of a handle for a statement of one string. -/
def single (r : Runner) (statement : Statement) (sql : String) : List Hurdle :=
  match statement with
  | .command (.prepared _ _) => Hurdle.template sql r.connection
  | _ => Hurdle.texts [sql] r.connection

/-- The parts of executing a command. A template is not rendered. -/
def commandStages (r : Runner) (visitors : List Visitor) : Command → List Stage
  | .prepared sql _ => [.attempt [sql] (Hurdle.template sql r.connection)]
  | command =>
    match Rendering.render r.dialect visitors (.command command) with
    | .error fault => [.check (some (.fault fault))]
    | .ok strings => [.attempt strings (Hurdle.texts strings r.connection)]

/-- The parts of executing a statement: those of the commands it expands to. -/
def executionStages (r : Runner) (statement : Statement) (visitors : List Visitor) : List Stage :=
  .check r.offlineFailure? ::
    match statement.expand r.dialect.name with
    | .error fault => [.check (some (.fault fault))]
    | .ok commands => commands.flatMap (r.commandStages visitors)

/-- The parts of an operation that takes one string, with what it does once it was run. -/
def singleStages (r : Runner) (statement : Statement) (visitors : List Visitor)
    (operation : String) (after : List Hurdle) : List Stage :=
  .check r.offlineFailure? ::
    match Rendering.renderSingle r.dialect visitors operation statement with
    | .error failure => [.check (some failure)]
    | .ok sql => [.attempt [sql] (r.single statement sql ++ after)]

/-- The parts of a call. -/
def callStages (r : Runner) (b : Behavior) (statement : Statement) (conduct : Option Conduct)
    (visitors : List Visitor) : List Stage :=
  .check r.offlineFailure? ::
    match Rendering.render r.dialect visitors statement with
    | .error fault => [.check (some (.fault fault))]
    | .ok [] => [.check (some (.execution (.unsupported
        "Callable statement rendered to no SQL" (some "execute_callable"))))]
    | .ok (sql :: rest) => [.attempt (sql :: rest)
        (Hurdle.callable b sql statement.parameters conduct r.connection)]

/-- The parts of an operation, in order. -/
def stages (r : Runner) (b : Behavior) : Operation → List Stage
  | .query statement visitors =>
    r.singleStages statement visitors "query" (Hurdle.reading b)
  | .update statement visitors =>
    .check (updateRefusal? statement) :: r.singleStages statement visitors "update" []
  | .execute statement visitors | .executeChange statement visitors =>
    r.executionStages statement visitors
  | .call statement conduct visitors =>
    r.callStages b statement conduct visitors
  | .comment _ => []

end Runner

/-- The name of an operation in the errors it raises. -/
def Operation.name : Operation → String
  | query _ _ => "query"
  | update _ _ => "update"
  | execute _ _ | executeChange _ _ => "execute"
  | call _ _ _ => "execute_callable"
  | comment _ => "comment"

theorem firstMishap?_append (b : Behavior) (first second : List Stage) :
    firstMishap? b (first ++ second) = (firstMishap? b first).or (firstMishap? b second) :=
  List.findSome?_append

/-! ## Measuring operations -/

/-- The failure as which a mishap leaves an operation. -/
def Runner.ends (r : Runner) (operation : String) : Mishap → Failure
  | .own failure => failure
  | .raised strings failure => r.leaving strings operation failure

/-- A step with this account fails as the first mishap in its parts, and only so. -/
def Fares (r : Runner) (operation : String) (b : Behavior) (stages : List Stage)
    (a : Account α) : Prop :=
  a.failure? = (firstMishap? b stages).map (r.ends operation)

namespace Fares

variable {r : Runner} {operation : String} {b : Behavior} {ss ts : List Stage}

theorem answer (value : α) (entries : List Entry) (events : List Event) :
    Fares r operation b [] (⟨.ok value, entries, events⟩ : Account α) := rfl

/-- What the runner refuses by itself leaves as it is. -/
theorem check (failure? : Option Failure) (value : α) (entries : List Entry) :
    Fares r operation b [.check failure?] (.request failure? value entries) := by
  rw [Fares, firstMishap?, List.findSome?_singleton, Stage.mishap?]
  cases failure? with
  | none => rfl
  | some failure => rfl

/-- What goes wrong first in two steps goes wrong in the first of them, or else in the second. -/
theorem bind {first : Account α} {next : α → Account β} (hf : Fares r operation b ss first)
    (hn : ∀ value, first.outcome = .ok value → Fares r operation b ts (next value)) :
    Fares r operation b (ss ++ ts) (first.bind next) := by
  rw [Fares, firstMishap?_append, Option.map_or, ← hf]
  exact Account.failure?_bind hn

/-- What is made of an answer changes nothing about failures. -/
theorem map {a : Account α} (f : α → β) (h : Fares r operation b ss a) :
    Fares r operation b ss (a.bind fun value => ⟨.ok (f value), [], []⟩) := by
  have both : Fares r operation b (ss ++ []) (a.bind fun value => ⟨.ok (f value), [], []⟩) :=
    h.bind fun value _ => answer (f value) [] []
  rwa [List.append_nil] at both

/-- A failure that is known beforehand is the end. -/
theorem refused (failure : Failure) (entries : List Entry) (events : List Event) :
    Fares r operation b [.check (some failure)]
      (⟨.error failure, entries, events⟩ : Account α) := rfl

end Fares

namespace Runner

variable {r : Runner} {operation : String} {b : Behavior} {hs ks : List Hurdle}

/-- **A bracket is one part**: a failure to acquire the handle and one on the handle leave alike,
    and what comes of the release is of no account. -/
theorem withHandle_fares {acquire : Session (Handle shape)} {action : HandleStep shape α}
    [acquire.Local] [action.Local] {strings : List String} (ha : Meets b hs (acquire.account b))
    (hu : ∀ handle, (acquire.account b).outcome = .ok handle →
      Meets b ks (action.stint handle b).toAccount) :
    Fares r operation b [.attempt strings (hs ++ ks)]
      ((r.withHandle acquire strings operation action).account b) := by
  rw [Fares, firstMishap?, List.findSome?_singleton, Stage.mishap?, firstFailure?_append, ← ha,
    withHandle_account]
  cases ho : (acquire.account b).outcome with
  | error failure =>
    rw [Account.failure?, Account.failure?, ho]
    rfl
  | ok handle =>
    rw [← hu handle ho, Account.failure?, Account.failure?, Account.failure?, ho]
    dsimp only
    cases (action.stint handle b).outcome with
    | error failure => rfl
    | ok value => rfl

/-- **A bracket around one request for a handle.** -/
theorem withHandle_request_fares {acquire : Session (Handle shape)}
    {action : HandleStep shape α} [acquire.Local] [action.Local] {strings : List String}
    {resource : Resource} {handle : Handle shape} {entries : List Entry}
    (ha : acquire.account b = .request (b.acquireFailure? resource) handle entries)
    (hu : Meets b ks (action.stint handle b).toAccount) :
    Fares r operation b [.attempt strings (.acquire resource :: ks)]
      ((r.withHandle acquire strings operation action).account b) := by
  have asked : Meets b [.acquire resource] (acquire.account b) := by
    rw [ha]
    exact .request rfl handle entries
  refine withHandle_fares asked fun given hg => ?_
  rw [ha] at hg
  cases hr : b.acquireFailure? resource with
  | some failure => rw [hr] at hg; cases hg
  | none =>
    rw [hr] at hg
    cases hg
    exact hu

/-- A connection that is not online has no handles. -/
theorem online_connection (online : r.offlineFailure? = none) :
    (∃ url hidden, r.connection = .scripted url hidden) ∨
      ∃ url style, r.connection = .adapted url style := by
  cases hc : r.connection with
  | scripted url hidden => exact .inl ⟨url, hidden, rfl⟩
  | adapted url style => exact .inr ⟨url, style, rfl⟩
  | offline url =>
    rw [offlineFailure?, hc] at online
    cases online

/-- **The way of a template**: it is prepared, bound and run, and something else may follow. -/
theorem template_fares (online : r.offlineFailure? = none) (sql : String)
    {action : HandleStep .prepared α} [action.Local]
    (hu : ∀ h : Handle .prepared,
      Meets b (Hurdle.binding h.backing ++ .run h.sql :: ks) (action.stint h b).toAccount) :
    Fares r operation b [.attempt [sql] (Hurdle.template sql r.connection ++ ks)]
      ((r.withHandle (r.connection.prepareStatement sql) [sql] operation action).account b) := by
  rcases online_connection online with ⟨url, hidden, hc⟩ | ⟨url, style, hc⟩
  · rw [hc]
    exact withHandle_request_fares (Connection.openScripted_account sql (.prepared sql) b) (hu _)
  · rw [hc, Hurdle.template, Hurdle.respelled]
    cases hr : Marker.respell sql style with
    | ok text =>
      have spelled : Hurdle.failure? b (.respell sql style) = none := by
        rw [Hurdle.failure?, hr]
        rfl
      exact withHandle_request_fares (Connection.prepareStatement_respelled url hr b)
        ((hu _).taken spelled)
    | error fault =>
      -- the cursor is open when the template turns out not to be respelled
      have failed : Meets b ([.acquire .cursor] ++ [.respell sql style])
          ((Connection.prepareStatement sql (.adapted url style)).account b) := by
        rw [Connection.prepareStatement_adapted, hr]
        refine (Meets.request rfl () [.cursorOpened]).bind fun _ _ => ?_
        rw [Meets, firstFailure?_cons, Hurdle.failure?, hr]
        rfl
      refine withHandle_fares failed fun handle given => ?_
      rw [Connection.prepareStatement_adapted, hr] at given
      cases ha : b.acquireFailure? .cursor with
      | some failure => rw [ha] at given; cases given
      | none => rw [ha] at given; cases given

/-- **The way of strings**: a plain handle is created, and they are run. -/
theorem texts_fares (online : r.offlineFailure? = none) (strings : List String)
    {action : HandleStep .plain α} [action.Local]
    (hu : ∀ h : Handle .plain,
      Meets b (strings.map .run ++ ks) (action.stint h b).toAccount) :
    Fares r operation b [.attempt strings (Hurdle.texts strings r.connection ++ ks)]
      ((r.withHandle r.connection.createStatement strings operation action).account b) := by
  rcases online_connection online with ⟨url, hidden, hc⟩ | ⟨url, style, hc⟩
  · rw [hc]
    exact withHandle_request_fares (Connection.openScripted_account "" .created b) (hu _)
  · rw [hc]
    exact withHandle_request_fares (Connection.createStatement_adapted url style b) (hu _)

/-- **The way of a call**: it is prepared, bound, and made or handed over. -/
theorem callable_fares (online : r.offlineFailure? = none) (sql : String) (rest : List String)
    (parameters : List Datum) (conduct : Option Conduct) :
    Fares r operation b
      [.attempt (sql :: rest) (Hurdle.callable b sql parameters conduct r.connection)]
      ((r.withHandle (r.connection.prepareCall sql) (sql :: rest) operation (do
        announce "executing_callable" sql
        Handle.bind parameters
        Handle.handOver conduct)).account b) := by
  have used (backing : Backing) : Meets b
      (Hurdle.binding backing ++ Hurdle.handled b
        { backing := backing, sql := sql, parameters := parameters } conduct)
      (HandleStep.stint (do
        announce "executing_callable" sql
        Handle.bind parameters
        Handle.handOver conduct) { backing := backing, sql := sql } b).toAccount := by
    refine HandleStep.meets_announce _ _ (HandleStep.meets_bind
      (Handle.bind_meets parameters _) fun _ _ => ?_)
    rw [Handle.bind_stint, Handle.request]
    exact Handle.handOver_meets conduct _
  rcases online_connection online with ⟨url, hidden, hc⟩ | ⟨url, style, hc⟩
  · rw [hc]
    exact withHandle_request_fares (Connection.openScripted_account sql (.preparedCall sql) b)
      (used .scripted)
  · rw [hc]
    exact withHandle_request_fares (Connection.prepareCall_adapted url style sql b)
      (used (.cursor style b.rowCount))

/-- Strings are run one after another; the escape mode is switched without a hurdle. -/
theorem runEach_meets (strings : List String) (h : Handle .plain) :
    Meets b (strings.map .run) ((r.runEach strings).stint h b).toAccount := by
  induction strings generalizing h with
  | nil =>
    rw [runEach, HandleStep.stint_pure]
    exact .answer () [] []
  | cons sql rest ih =>
    have ran (left : Handle .plain) : Meets b ([.run sql] ++ rest.map .run)
        ((Handle.execute sql >>= fun _ => r.runEach rest).stint left b).toAccount :=
      HandleStep.meets_bind (Handle.runPlain_meets .execute sql left) fun _ _ => ih _
    rw [runEach, HandleStep.stint_bind, HandleStep.stint_lift, announce_account, Stint.ok_bind]
    cases r.holdsMarker sql with
    | false => exact ran h
    | true =>
      show Meets b _
        (HandleStep.stint (Handle.setEscapeProcessing false >>= fun _ => _) h b).toAccount
      rw [HandleStep.stint_bind, Handle.setEscapeProcessing_stint, Stint.toAccount_bind]
      exact (Meets.answer () _ []).bind fun _ _ => ran _

/-! ## Every operation -/

variable {statement : Statement} {visitors : List Visitor}

/-- What follows the check that the connection is online may rely on it. -/
theorem online_fares {next : Session α} [next.Local] {ts : List Stage}
    (h : r.offlineFailure? = none → Fares r operation b ts (next.account b)) :
    Fares r operation b (.check r.offlineFailure? :: ts)
      ((r.ensureOnline >>= fun _ => next).account b) := by
  rw [Session.account_bind, ensureOnline_account]
  refine (Fares.check r.offlineFailure? () []).bind fun _ passed => h ?_
  cases hf : r.offlineFailure? with
  | none => rfl
  | some failure => rw [hf] at passed; cases passed

/-- An operation that takes one string is refused while it is rendered, or has its handle. -/
theorem single_fares (operation : String) (after : List Hurdle) {run : String → Session α}
    [∀ sql, (run sql).Local]
    (h : ∀ sql, r.offlineFailure? = none →
      Fares r operation b [.attempt [sql] (r.single statement sql ++ after)]
        ((run sql).account b)) :
    Fares r operation b (r.singleStages statement visitors operation after)
      ((do
        r.ensureOnline
        let sql ← r.renderSingle statement visitors operation
        run sql).account b) := by
  refine online_fares fun online => ?_
  cases hr : Rendering.renderSingle r.dialect visitors operation statement with
  | error failure =>
    rw [Session.account_bind_of_failure _ (r.renderSingle_account_of hr b)]
    exact .refused failure [] []
  | ok sql =>
    rw [Session.account_bind_of_answer _ (r.renderSingle_account_of hr b)]
    exact h sql online

theorem query_fares :
    Fares r "query" b (r.singleStages statement visitors "query" (Hurdle.reading b))
      ((r.query statement visitors).account b) := by
  rw [query_eq]
  refine single_fares "query" (Hurdle.reading b) fun sql online => ?_
  have plain : Fares r "query" b [.attempt [sql] (Hurdle.texts [sql] r.connection ++
      Hurdle.reading b)] ((r.withHandle r.connection.createStatement [sql] "query" (do
        announce "executing_query" sql
        (← Handle.query sql).materialize)).account b) :=
    texts_fares online [sql] fun h => HandleStep.meets_announce _ _
      (HandleStep.meets_materialize (Handle.query_meets sql h))
  cases statement with
  | change change => exact plain
  | command command =>
    cases command with
    | prepared template parameters =>
      exact template_fares online sql fun h => HandleStep.meets_announce _ _
        (Handle.bound_meets parameters h fun left same =>
          same ▸ HandleStep.meets_materialize (Handle.queryPrepared_meets left))
    | _ => exact plain

theorem update_fares :
    Fares r "update" b
      (.check (updateRefusal? statement) :: r.singleStages statement visitors "update" [])
      ((r.update statement visitors).account b) := by
  rw [update_eq, Session.account_bind, Session.account_failIf]
  refine (Fares.check (updateRefusal? statement) () []).bind fun _ _ => ?_
  refine single_fares "update" [] fun sql online => ?_
  have plain : Fares r "update" b [.attempt [sql] (Hurdle.texts [sql] r.connection ++ [])]
      ((r.withHandle r.connection.createStatement [sql] "update" (do
        announce "executing_update" sql
        return UpdateResult.ofReport (← Handle.update sql))).account b) :=
    texts_fares online [sql] fun h => HandleStep.meets_announce _ _
      (HandleStep.meets_answer UpdateResult.ofReport (Handle.update_meets sql h)).1
  cases statement with
  | change change => exact plain
  | command command =>
    cases command with
    | prepared template parameters =>
      exact template_fares online sql fun h => HandleStep.meets_announce _ _
        (Handle.bound_meets parameters h fun left same => same ▸
          (HandleStep.meets_answer UpdateResult.ofReport (Handle.updatePrepared_meets left)).1)
    | _ => exact plain

/-- A command on a connection that is online. -/
def runCommand (r : Runner) (visitors : List Visitor) (command : Command) : Session Unit :=
  match command with
  | .prepared sql parameters => r.executePrepared sql parameters
  | _ => do
    let rendered ← r.render (.command command) visitors
    r.withHandle r.connection.createStatement rendered "execute" (r.runEach rendered)

theorem executeCommand_eq (command : Command) :
    r.executeCommand visitors command =
      (do
        r.ensureOnline
        r.runCommand visitors command) := by
  cases command <;> rfl

instance local_runCommand (command : Command) : (r.runCommand visitors command).Local := by
  unfold runCommand
  split <;> infer_instance

/-- A template is run as it is, and anything else as what it renders to. -/
theorem runCommand_fares (online : r.offlineFailure? = none) (command : Command) :
    Fares r "execute" b (r.commandStages visitors command)
      ((r.runCommand visitors command).account b) := by
  cases command with
  | prepared sql parameters =>
    have run : Fares r "execute" b [.attempt [sql] (Hurdle.template sql r.connection ++ [])]
        ((r.withHandle (r.connection.prepareStatement sql) [sql] "execute" (do
          Handle.bind parameters
          Handle.executePrepared)).account b) :=
      template_fares online sql fun h => Handle.bound_meets parameters h fun left same =>
        same ▸ Handle.runPrepared_meets .execute left
    rw [List.append_nil] at run
    show Fares r "execute" b _ ((r.executePrepared sql parameters).account b)
    unfold executePrepared
    rw [Session.account_bind, announce_account]
    exact (Fares.answer () [] _).bind fun _ _ => run
  | _ =>
    unfold commandStages runCommand
    dsimp only
    cases hr : Rendering.render r.dialect visitors (.command _) with
    | error fault =>
      rw [Session.account_bind_of_failure _ (r.render_account_of_error hr b)]
      exact .refused (.fault fault) [] []
    | ok strings =>
      rw [Session.account_bind_of_answer _ (r.render_account_of_ok hr b)]
      have run : Fares r "execute" b [.attempt strings (Hurdle.texts strings r.connection ++ [])]
          ((r.withHandle r.connection.createStatement strings "execute"
            (r.runEach strings)).account b) :=
        texts_fares online strings fun h => by
          rw [List.append_nil]
          exact runEach_meets strings h
      rwa [List.append_nil] at run

theorem executeCommand_fares (command : Command) :
    Fares r "execute" b (.check r.offlineFailure? :: r.commandStages visitors command)
      ((r.executeCommand visitors command).account b) := by
  rw [executeCommand_eq]
  exact online_fares fun online => runCommand_fares online command

/-- Commands are run one after another, up to the first with which something goes wrong. -/
theorem executeAll_fares (online : r.offlineFailure? = none) (commands : List Command) :
    Fares r "execute" b (commands.flatMap (r.commandStages visitors))
      ((r.executeAll visitors commands).account b) := by
  induction commands with
  | nil => exact .answer () [] []
  | cons command rest ih =>
    have first : Fares r "execute" b (r.commandStages visitors command)
        ((r.executeCommand visitors command).account b) := by
      have checked := @executeCommand_fares r b visitors command
      rw [online] at checked
      exact checked
    rw [executeAll, Session.account_bind, List.flatMap_cons]
    exact first.bind fun _ _ => ih

theorem executeChange_fares :
    Fares r "execute" b (r.executionStages statement visitors)
      ((r.executeChange statement visitors).account b) := by
  refine online_fares fun online => ?_
  rw [Session.account_bind, Session.account_ofFault]
  cases statement.expand r.dialect.name with
  | error fault => exact .refused (.fault fault) [] []
  | ok commands => exact executeAll_fares online commands

theorem execute_fares :
    Fares r "execute" b (r.executionStages statement visitors)
      ((r.execute statement visitors).account b) := by
  cases statement with
  | change change => exact executeChange_fares
  | command command =>
    have alone := @executeCommand_fares r b visitors command
    rw [← List.append_nil (r.commandStages visitors command)] at alone
    exact alone

/-- A call from the point on where its strings are known. -/
def callRendered (r : Runner) (statement : Statement) (conduct : Option Conduct) :
    List String → Session Datum
  | [] => Session.fail (.execution (.unsupported "Callable statement rendered to no SQL"
      (some "execute_callable")))
  | sql :: rest => r.withHandle (r.connection.prepareCall sql) (sql :: rest) "execute_callable" do
      announce "executing_callable" sql
      Handle.bind statement.parameters
      Handle.handOver conduct

theorem executeCallable_eq (conduct : Option Conduct) :
    r.executeCallable statement conduct visitors = (do
      r.ensureOnline
      let rendered ← r.render statement visitors
      r.callRendered statement conduct rendered) := by
  refine congrArg (r.ensureOnline >>= ·) (funext fun _ => ?_)
  refine congrArg (r.render statement visitors >>= ·) (funext fun rendered => ?_)
  cases rendered <;> rfl

instance local_callRendered (conduct : Option Conduct) (strings : List String) :
    (r.callRendered statement conduct strings).Local := by
  unfold callRendered
  split <;> infer_instance

theorem executeCallable_fares (conduct : Option Conduct) :
    Fares r "execute_callable" b (r.callStages b statement conduct visitors)
      ((r.executeCallable statement conduct visitors).account b) := by
  rw [executeCallable_eq]
  refine online_fares fun online => ?_
  cases hr : Rendering.render r.dialect visitors statement with
  | error fault =>
    rw [Session.account_bind_of_failure _ (r.render_account_of_error hr b)]
    exact .refused (.fault fault) [] []
  | ok strings =>
    rw [Session.account_bind_of_answer _ (r.render_account_of_ok hr b)]
    cases strings with
    | nil =>
      rw [callRendered, Session.account_fail]
      exact .refused _ [] []
    | cons sql rest => exact callable_fares online sql rest statement.parameters conduct

/-- Whatever is asked of a runner ends with the first mishap in its parts, and only so. -/
theorem perform_fares (r : Runner) (b : Behavior) (operation : Operation) :
    Fares r operation.name b (r.stages b operation) ((r.perform operation).account b) := by
  cases operation with
  | query statement visitors =>
    rw [perform, Session.account_bind]
    simp only [Session.account_pure]
    exact query_fares.map Answer.rows
  | update statement visitors =>
    rw [perform, Session.account_bind]
    simp only [Session.account_pure]
    exact update_fares.map Answer.count
  | execute statement visitors =>
    rw [perform, Session.account_bind]
    simp only [Session.account_pure]
    exact execute_fares.map fun _ => Answer.nothing
  | executeChange statement visitors =>
    rw [perform, Session.account_bind]
    simp only [Session.account_pure]
    exact executeChange_fares.map fun _ => Answer.nothing
  | call statement conduct visitors =>
    rw [perform, Session.account_bind]
    simp only [Session.account_pure]
    exact (executeCallable_fares conduct).map Answer.value
  | comment message =>
    rw [perform, Session.account_bind, comment, Session.account_report, Account.noting_bind,
      Session.account_pure]
    exact .answer Answer.nothing _ _

/-- An operation fails in a world as its first mishap there does, and not otherwise. -/
theorem perform_error_iff (r : Runner) (w : World) (operation : Operation) (failure : Failure) :
    ((r.perform operation).run w).1 = .error failure ↔
      ∃ mishap, firstMishap? w.behavior (r.stages w.behavior operation) = some mishap ∧
        r.ends operation.name mishap = failure := by
  have fares := perform_fares r w.behavior operation
  rw [← Option.map_eq_some_iff, ← fares, Session.run_eq, Account.failure?]
  cases ((r.perform operation).account w.behavior).outcome with
  | ok answer =>
    constructor
    · intro h
      cases h
    · intro h
      cases h
  | error raised =>
    exact ⟨fun h => congrArg some (Except.error.inj h),
      fun h => congrArg Except.error (Option.some.inj h)⟩

/-- **How failures leave the runner.** Whatever is asked of a runner, over whichever connection,
    ends with the first mishap in its parts. Without one there is an answer. What the runner
    refuses by itself is raised as it is. Of what is raised on the way of a handle, by acquiring,
    binding, running, fetching, unwrapping or a caller, an execution error is raised as it is, and
    anything else as the execution error of a driver's failure, which has it for its cause, names
    the address of the connection and the operation, and is worded from all the strings on whose
    behalf the handle was used. -/
theorem perform_translated (r : Runner) (w : World) (operation : Operation) :
    let outcome := ((r.perform operation).run w).1
    match firstMishap? w.behavior (r.stages w.behavior operation) with
    | none => ∃ answer, outcome = .ok answer
    | some (.own failure) => outcome = .error failure
    | some (.raised _ (.execution error)) => outcome = .error (.execution error)
    | some (.raised strings (.fault fault)) =>
      outcome = .error (.execution {
        message := "Error executing SQL " ++
          String.intercalate ("; on " ++ r.connection.url) strings ++ ": " ++ fault.message
        kind := .driverFailure
        context := {
          sql := strings
          address := some r.connection.url
          operation := some operation.name }
        cause := some (.fault fault) }) := by
  have fares := perform_fares r w.behavior operation
  rw [Session.run_eq]
  rw [Fares, Account.failure?] at fares
  dsimp only
  cases ho : ((r.perform operation).account w.behavior).outcome with
  | ok answer =>
    rw [ho] at fares
    rw [Option.map_eq_none_iff.mp fares.symm]
    exact ⟨answer, rfl⟩
  | error failure =>
    rw [ho] at fares
    obtain ⟨mishap, first, ends⟩ := Option.map_eq_some_iff.mp fares.symm
    rw [first, ← ends]
    cases mishap with
    | own failure => rfl
    | raised strings failure =>
      cases failure with
      | execution error => rfl
      | fault fault => rfl

/-- The rows cannot be fetched, and then neither the cursor nor the handle can be closed. -/
example :
    let b : Behavior := { failFetch := true, failClose := [.cursor, .statement] }
    firstMishap? b ((⟨.scripted "db" false, .sqlite⟩ : Runner).stages b
        (.query (.command (.raw "SELECT 1" ";" false)) [])) =
      some (.raised ["SELECT 1"] (.fault (.driver "fetch failed"))) := rfl

end Runner

end SqlRunner
