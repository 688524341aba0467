import SqlRunner.Proofs.PreviewAgreement
import SqlRunner.Proofs.Translation

/-!
# Preflight — what goes wrong before a handle is asked for

Before an operation asks for a handle it looks at its statement and its connection, and it may find
that there is no point in going on. `Runner.preflight?` lists what it looks for, in the order in
which it looks: the failures of one operation are joined by `Option.or`, so of several that apply at
once it is the leftmost that is raised, and the others are not even noticed.

An operation that ends there touches nothing. That is `Session.Refuses`: the step fails in every
world and hands the world back as it was. A world in which no handle is to be had is among them, and
so is one in which every handle is, so nobody was asked for one (`withHandle_not_refuses`).
-/

set_option autoImplicit false

namespace SqlRunner

variable {α β : Type} {shape : Shape}

namespace Session

/-- The step fails in every world, and leaves it as it is. -/
def Refuses (step : Session α) (failure : Failure) : Prop :=
  ∀ w : World, step.run w = (.error failure, w)

/-- The step answers in every world, and leaves it as it is. -/
def Passes (step : Session α) (value : α) : Prop :=
  ∀ w : World, step.run w = (.ok value, w)

theorem fail_refuses (failure : Failure) : (fail failure : Session α).Refuses failure :=
  fun _ => rfl

/-- Nothing comes after a refusal. -/
theorem Refuses.bind {step : Session α} {failure : Failure} (h : step.Refuses failure)
    (next : α → Session β) : (step >>= next).Refuses failure := by
  intro w
  rw [run_bind, h w]

/-- Behind a step that does nothing but answer, a refusal is the refusal of both. -/
theorem Passes.bind {step : Session α} {value : α} {next : α → Session β} {failure : Failure}
    (h : step.Passes value) (later : (next value).Refuses failure) :
    (step >>= next).Refuses failure := by
  intro w
  rw [run_bind, h w]
  exact later w

theorem ofExcept_refuses {result : Except Failure α} {failure : Failure}
    (h : result = .error failure) : (ofExcept result).Refuses failure :=
  h ▸ fail_refuses failure

theorem ofFault_refuses {result : Except Fault α} {fault : Fault} (h : result = .error fault) :
    (ofFault result).Refuses (.fault fault) :=
  h ▸ fail_refuses (.fault fault)

theorem ofFault_passes {result : Except Fault α} {value : α} (h : result = .ok value) :
    (ofFault result).Passes value :=
  h ▸ fun _ => rfl

/-- **Precedence.** What is checked for first is what is raised, and what is behind the check
    matters only where it passes. -/
theorem guarded_refuses {first? second? : Option Failure} {next : Unit → Session α}
    {failure : Failure} (h : first?.or second? = some failure)
    (later : second? = some failure → (next ()).Refuses failure) :
    (failIf first? >>= next).Refuses failure := by
  cases first? with
  | some first =>
    cases h
    exact (fail_refuses failure).bind next
  | none =>
    have passed : (failIf none).Passes () := fun _ => rfl
    exact passed.bind (later h)

/-- A step that writes something down in some world does not refuse. -/
theorem not_refuses_of_entries {step : Session α} [step.Local] {b : Behavior}
    (written : (step.account b).entries ≠ []) (failure : Failure) : ¬ step.Refuses failure := by
  intro refused
  have left := congrArg (fun ending => ending.2.journal) (refused { behavior := b })
  rw [run_eq] at left
  exact written left

end Session

namespace Runner

open Session

/-! ## Who asks for a handle does not refuse -/

/-- Wherever acquiring writes something down, so does the bracket around it. -/
theorem withHandle_not_refuses (r : Runner) {acquire : Session (Handle shape)}
    (sql : List String) (operation : String) (action : HandleStep shape α) [acquire.Local]
    [action.Local] {b : Behavior} (written : (acquire.account b).entries ≠ [])
    (failure : Failure) : ¬ (r.withHandle acquire sql operation action).Refuses failure := by
  refine not_refuses_of_entries (b := b) ?_ failure
  rw [withHandle_account]
  cases (acquire.account b).outcome with
  | error raised => exact written
  | ok handle => exact List.append_ne_nil_of_left_ne_nil written _

/-- Every way to ask an online connection for a handle shows where the handle is to be had. -/
theorem asking_shows {r : Runner} (online : r.offlineFailure? = none) (sql : String) :
    (r.connection.createStatement.account {}).entries ≠ [] ∧
      ((r.connection.prepareStatement sql).account {}).entries ≠ [] ∧
      ((r.connection.prepareCall sql).account {}).entries ≠ [] := by
  rcases online_connection online with ⟨url, hidden, hc⟩ | ⟨url, style, hc⟩
  · rw [hc]
    exact ⟨List.cons_ne_nil _ _, List.cons_ne_nil _ _, List.cons_ne_nil _ _⟩
  · rw [hc]
    refine ⟨List.cons_ne_nil _ _, ?_, List.cons_ne_nil _ _⟩
    rw [Connection.prepareStatement_adapted]
    cases Marker.respell sql style with
    | ok text => exact List.cons_ne_nil _ _
    | error fault => exact List.cons_ne_nil _ _

/-! ## What is looked for, and in which order -/

/-- Why a statement has no one string to run. -/
def singleFailure? (r : Runner) (statement : Statement) (visitors : List Visitor)
    (operation : String) : Option Failure :=
  match Rendering.renderSingle r.dialect visitors operation statement with
  | .ok _ => none
  | .error failure => some failure

/-- The failure of a call of which there is nothing to run. -/
def nothingToCall : Failure :=
  .execution (.unsupported "Callable statement rendered to no SQL" (some "execute_callable"))

/-- Why a statement has no call to make. -/
def callFailure? (r : Runner) (statement : Statement) (visitors : List Visitor) :
    Option Failure :=
  match Rendering.render r.dialect visitors statement with
  | .error fault => some (.fault fault)
  | .ok [] => some nothingToCall
  | .ok (_ :: _) => none

/-- The failure before a handle is asked for. The statement of an update is looked at before the
    connection is, and every other one after it. A template that is executed is not rendered, and
    a change is expanded but not rendered. -/
def preflight? (r : Runner) : Operation → Option Failure
  | .query statement visitors =>
    r.offlineFailure?.or (r.singleFailure? statement visitors "query")
  | .update statement visitors =>
    (updateRefusal? statement).or
      (r.offlineFailure?.or (r.singleFailure? statement visitors "update"))
  | .execute (.command command) visitors =>
    r.offlineFailure?.or (if command.isSelfExecuting then none
      else faultOf? (Rendering.render r.dialect visitors (.command command)))
  | .execute (.change change) _ =>
    r.offlineFailure?.or (faultOf? ((Statement.change change).expand r.dialect.name))
  | .executeChange statement _ =>
    r.offlineFailure?.or (faultOf? (statement.expand r.dialect.name))
  | .call statement _ visitors =>
    r.offlineFailure?.or (r.callFailure? statement visitors)
  | .comment _ => none

variable {r : Runner} {statement : Statement} {visitors : List Visitor} {failure : Failure}

theorem ensureOnline_eq (r : Runner) : r.ensureOnline = failIf r.offlineFailure? := by
  unfold ensureOnline offlineFailure?
  cases r.connection.isOffline with
  | true => rfl
  | false => rfl

/-- What comes before and behind the check that the connection is online. -/
theorem online_refuses {second? : Option Failure} {next : Session α}
    (h : r.offlineFailure?.or second? = some failure)
    (later : second? = some failure → next.Refuses failure) :
    (do
      r.ensureOnline
      next).Refuses failure := by
  rw [ensureOnline_eq]
  exact guarded_refuses h later

theorem renderSingle_refuses {operation : String}
    (h : r.singleFailure? statement visitors operation = some failure) :
    (r.renderSingle statement visitors operation).Refuses failure := by
  refine ofExcept_refuses ?_
  unfold singleFailure? at h
  cases hr : Rendering.renderSingle r.dialect visitors operation statement with
  | ok sql => rw [hr] at h; cases h
  | error raised => rw [hr] at h; cases h; rfl

theorem ofFault_refuses_of {result : Except Fault α} (h : faultOf? result = some failure) :
    (ofFault result).Refuses failure := by
  cases result with
  | ok value => cases h
  | error fault =>
    cases h
    exact ofFault_refuses rfl

theorem query_refuses
    (h : r.offlineFailure?.or (r.singleFailure? statement visitors "query") = some failure) :
    (r.query statement visitors).Refuses failure := by
  rw [query_eq]
  exact online_refuses h fun single => (renderSingle_refuses single).bind _

theorem update_refuses
    (h : (updateRefusal? statement).or
      (r.offlineFailure?.or (r.singleFailure? statement visitors "update")) = some failure) :
    (r.update statement visitors).Refuses failure := by
  rw [update_eq]
  exact guarded_refuses h fun rest =>
    online_refuses rest fun single => (renderSingle_refuses single).bind _

theorem executeChange_refuses
    (h : r.offlineFailure?.or (faultOf? (statement.expand r.dialect.name)) = some failure) :
    (r.executeChange statement visitors).Refuses failure :=
  online_refuses h fun expansion => (ofFault_refuses_of expansion).bind _

theorem executeCommand_refuses {command : Command}
    (h : r.offlineFailure?.or (if command.isSelfExecuting then none
      else faultOf? (Rendering.render r.dialect visitors (.command command))) = some failure) :
    (r.executeCommand visitors command).Refuses failure := by
  rw [executeCommand_eq]
  refine online_refuses h fun rendering => ?_
  rcases command.prepared_or_rendered with ⟨sql, parameters, rfl⟩ | rendered
  · cases rendering
  · rw [rendered, if_neg Bool.false_ne_true] at rendering
    have refused := ofFault_refuses_of rendering
    cases command with
    | prepared sql parameters => cases rendered
    | _ => exact refused.bind _

theorem executeCallable_refuses {conduct : Option Conduct}
    (h : r.offlineFailure?.or (r.callFailure? statement visitors) = some failure) :
    (r.executeCallable statement conduct visitors).Refuses failure := by
  rw [executeCallable_eq]
  refine online_refuses h fun call => ?_
  unfold callFailure? at call
  cases hr : Rendering.render r.dialect visitors statement with
  | error fault =>
    rw [hr] at call
    cases call
    exact (ofFault_refuses hr).bind _
  | ok strings =>
    rw [hr] at call
    cases strings with
    | cons sql rest => cases call
    | nil =>
      cases call
      exact (ofFault_passes hr).bind (fail_refuses nothingToCall)

/-- **What is found out before a handle is asked for is raised, and nothing is touched.** -/
theorem perform_refuses {operation : Operation} (h : r.preflight? operation = some failure) :
    (r.perform operation).Refuses failure := by
  cases operation with
  | query statement visitors => exact (query_refuses h).bind _
  | update statement visitors => exact (update_refuses h).bind _
  | execute statement visitors =>
    cases statement with
    | command command => exact Refuses.bind (executeCommand_refuses h) _
    | change change =>
      have refused : (r.executeChange (.change change) visitors).Refuses failure :=
        executeChange_refuses h
      exact refused.bind _
  | executeChange statement visitors => exact (executeChange_refuses h).bind _
  | call statement conduct visitors => exact (executeCallable_refuses h).bind _
  | comment message => cases h

end Runner

/-! ## More or fewer strings than one -/

namespace Rendering

variable {dialect : Dialect} {visitors : List Visitor} {operation : String}
  {statement : Statement}

/-- Each string is finished as one string. -/
theorem length_finishAll {strings finished : List String}
    (h : finishAll dialect visitors strings = .ok finished) : finished.length = strings.length := by
  induction strings generalizing finished with
  | nil =>
    cases h
    rfl
  | cons sql rest ih =>
    obtain ⟨first, -, tail⟩ := of_bind_eq_ok h
    obtain ⟨others, ho, answer⟩ := of_bind_eq_ok tail
    cases answer
    rw [List.length_cons, List.length_cons, ih ho]

theorem renderSingle_of_error {fault : Fault}
    (h : render dialect visitors statement = .error fault) :
    renderSingle dialect visitors operation statement = .error (.fault fault) := by
  rw [renderSingle, h]

theorem renderSingle_of_several {strings : List String}
    (h : render dialect visitors statement = .ok strings) (several : strings.length ≠ 1) :
    renderSingle dialect visitors operation statement =
      .error (.execution (.multiStatement strings operation)) := by
  rw [renderSingle, h]
  match strings with
  | [] => rfl
  | [sql] => exact absurd rfl several
  | first :: second :: rest => rfl

/-- An execution error is raised about the number of strings, and about nothing else. -/
theorem several_of_renderSingle {error : ExecutionError}
    (h : renderSingle dialect visitors operation statement = .error (.execution error)) :
    ∃ strings, render dialect visitors statement = .ok strings ∧ strings.length ≠ 1 := by
  unfold renderSingle at h
  split at h
  · cases h
  · cases h
  · next strings several hr =>
    refine ⟨strings, hr, fun one => ?_⟩
    obtain ⟨sql, rfl⟩ := List.length_eq_one_iff.mp one
    exact several sql rfl

end Rendering

/-- Whether a statement is the call of a procedure. -/
def Statement.isCall : Statement → Bool
  | .command (.call _ _) => true
  | _ => false

/-- A call has one string, unless it cannot be rendered. -/
theorem Statement.length_of_isCall {dialect : Dialect} {visitors : List Visitor}
    {statement : Statement} {strings : List String} (call : statement.isCall = true)
    (h : Rendering.render dialect visitors statement = .ok strings) : strings.length = 1 := by
  match statement with
  | .command (.call sql parameters) =>
    rw [Line.render_command] at h
    obtain ⟨generated, alone, finished⟩ := of_bind_eq_ok h
    cases alone
    exact Rendering.length_finishAll finished

theorem faultOf?_ne_execution (result : Except Fault α) (error : ExecutionError) :
    faultOf? result ≠ some (.execution error) := by
  intro h
  cases result with
  | ok value => cases h
  | error fault => cases h

/-- A driver does not count strings. -/
theorem Raised.kind_of_execution {raised : Raised} {error : ExecutionError}
    (h : raised.failure = .execution error) : error.kind ≠ .multiStatement := by
  have foreign := raised.foreign
  rw [h, Failure.countsStrings] at foreign
  exact fun same => absurd foreign (by rw [same]; decide)

theorem Raised.kind_of_raised {p : Prop} [Decidable p] {raised : Raised}
    {error : ExecutionError}
    (h : (if p then some raised.failure else none) = some (.execution error)) :
    error.kind ≠ .multiStatement := by
  split at h
  · exact kind_of_execution (Option.some.inj h)
  · cases h

/-- A driver that refuses SQL does not count strings. -/
theorem Behavior.kind_of_refusal? {b : Behavior} {sql : String} {error : ExecutionError}
    (h : b.refusal? sql = some (.execution error)) : error.kind ≠ .multiStatement := by
  unfold refusal? at h
  split at h
  · cases h
  · split at h
    · cases h
    · cases h
      exact ErrorKind.noConfusion
    · cases h
      exact ErrorKind.noConfusion
    · exact Raised.kind_of_execution (Option.some.inj h)

namespace Hurdle

/-- An execution error on the way of a handle is not about strings, or it is a caller's own. -/
theorem of_execution {b : Behavior} {hurdle : Hurdle} {error : ExecutionError}
    (h : hurdle.failure? b = some (.execution error)) :
    error.kind ≠ .multiStatement ∨ hurdle = .raise (.execution error) := by
  cases hurdle with
  | run sql => exact .inl (Behavior.kind_of_refusal? h)
  | raise failure => exact .inr (congrArg raise (Option.some.inj h))
  | respell sql style => exact absurd h (faultOf?_ne_execution _ error)
  | unwrap value => exact absurd h (faultOf?_ne_execution _ error)
  | acquire resource => exact .inl (Raised.kind_of_raised h)
  | close resource => exact .inl (Raised.kind_of_raised h)
  | bind => exact .inl (Raised.kind_of_raised h)
  | fetch => exact .inl (Raised.kind_of_raised h)

/-- Hurdles among which no caller's code is never count strings. -/
theorem kind_of_firstFailure? {b : Behavior} {hurdles : List Hurdle} {error : ExecutionError}
    (driven : ∀ failure, .raise failure ∉ hurdles)
    (h : firstFailure? b hurdles = some (.execution error)) : error.kind ≠ .multiStatement := by
  obtain ⟨hurdle, mem, failed⟩ := List.exists_of_findSome?_eq_some h
  rcases of_execution failed with other | rfl
  · exact other
  · exact absurd mem (driven _)

theorem raise_notMem_reading (b : Behavior) (failure : Failure) :
    .raise failure ∉ reading b := by
  intro mem
  rcases List.mem_cons.mp mem with fetched | unwrapped
  · cases fetched
  · obtain ⟨row, -, taken⟩ := List.mem_flatMap.mp unwrapped
    obtain ⟨value, -, raised⟩ := List.mem_map.mp taken
    cases raised

end Hurdle

namespace Runner

variable {r : Runner} {statement : Statement} {visitors : List Visitor}

theorem updateRefusal?_of_isCall (call : statement.isCall = true) :
    updateRefusal? statement = some (.execution (.unsupported
      "Direct update using a callable statement is not implemented" (some "update"))) := by
  match statement with
  | .command (.call sql parameters) => rfl

theorem updateRefusal?_of_not_isCall (other : statement.isCall = false) :
    updateRefusal? statement = none := by
  unfold updateRefusal?
  split
  · cases other
  · rfl

theorem kind_of_offlineFailure? {error : ExecutionError}
    (h : r.offlineFailure? = some (.execution error)) : error.kind = .connectionUnavailable := by
  unfold offlineFailure? at h
  split at h
  · cases h
    rfl
  · cases h

theorem raise_notMem_single (r : Runner) (statement : Statement) (sql : String)
    (failure : Failure) : .raise failure ∉ r.single statement sql := by
  unfold single
  split
  · cases r.connection with
    | scripted url hidden => simp [Hurdle.template]
    | offline url => simp [Hurdle.template]
    | adapted url style =>
      simp only [Hurdle.template, Hurdle.respelled]
      cases Marker.respell sql style with
      | ok text => simp
      | error fault => simp
  · cases r.connection <;> simp [Hurdle.texts]

/-- Of the mishaps of an operation that takes one string, only the number of strings is about the
    number of strings. -/
theorem several_of_single {b : Behavior} {operation : String} {after : List Hurdle}
    {mishap : Mishap} {error : ExecutionError} (driven : ∀ failure, .raise failure ∉ after)
    (first : firstMishap? b (r.singleStages statement visitors operation after) = some mishap)
    (ends : r.ends operation mishap = .execution error) (kind : error.kind = .multiStatement) :
    ∃ strings, Rendering.render r.dialect visitors statement = .ok strings ∧
      strings.length ≠ 1 := by
  obtain ⟨stage, mem, went⟩ := List.exists_of_findSome?_eq_some first
  rcases List.mem_cons.mp mem with rfl | rest
  · obtain ⟨failure, offline, rfl⟩ := Option.map_eq_some_iff.mp went
    cases ends
    cases kind.symm.trans (kind_of_offlineFailure? offline)
  · cases hr : Rendering.renderSingle r.dialect visitors operation statement with
    | error failure =>
      rw [hr] at rest
      cases List.mem_singleton.mp rest
      cases went
      cases ends
      exact Rendering.several_of_renderSingle hr
    | ok sql =>
      rw [hr] at rest
      cases List.mem_singleton.mp rest
      obtain ⟨failure, failed, rfl⟩ := Option.map_eq_some_iff.mp went
      cases failure with
      | fault fault =>
        cases ends
        cases kind
      | execution raised =>
        cases ends
        refine absurd kind (Hurdle.kind_of_firstFailure? (fun failure mem => ?_) failed)
        rcases List.mem_append.mp mem with own | later
        · exact raise_notMem_single r statement sql failure own
        · exact driven failure later

end Runner

/-- In this world the step ends with an execution error of this kind. -/
def Session.EndsAs (step : Session α) (w : World) (kind : ErrorKind) : Prop :=
  ∃ error, (step.run w).1 = .error (.execution error) ∧ error.kind = kind

theorem Session.Refuses.endsAs {step : Session α} {error : ExecutionError}
    (h : step.Refuses (.execution error)) (w : World) : step.EndsAs w error.kind :=
  ⟨error, congrArg Prod.fst (h w), rfl⟩

namespace Runner

variable {r : Runner} {statement : Statement} {visitors : List Visitor}

theorem mishap_of_endsAs {operation : Operation} {w : World} {kind : ErrorKind}
    (h : (r.perform operation).EndsAs w kind) :
    ∃ mishap error, firstMishap? w.behavior (r.stages w.behavior operation) = some mishap ∧
      r.ends operation.name mishap = .execution error ∧ error.kind = kind := by
  obtain ⟨error, outcome, kind⟩ := h
  obtain ⟨mishap, first, ends⟩ := (r.perform_error_iff w operation _).mp outcome
  exact ⟨mishap, error, first, ends, kind⟩

theorem query_endsAs_several {w : World}
    (h : (r.perform (.query statement visitors)).EndsAs w .multiStatement) :
    ∃ strings, Rendering.render r.dialect visitors statement = .ok strings ∧
      strings.length ≠ 1 := by
  obtain ⟨mishap, error, first, ends, kind⟩ := mishap_of_endsAs h
  exact several_of_single (Hurdle.raise_notMem_reading w.behavior) first ends kind

theorem update_endsAs_several {w : World}
    (h : (r.perform (.update statement visitors)).EndsAs w .multiStatement) :
    ∃ strings, Rendering.render r.dialect visitors statement = .ok strings ∧
      strings.length ≠ 1 := by
  obtain ⟨mishap, error, first, ends, kind⟩ := mishap_of_endsAs h
  cases call : statement.isCall with
  | true =>
    rw [stages, firstMishap?, updateRefusal?_of_isCall call] at first
    cases first
    cases ends
    cases kind
  | false =>
    rw [stages, firstMishap?, updateRefusal?_of_not_isCall call] at first
    exact several_of_single (fun _ => List.not_mem_nil) first ends kind

/-! ## What is raised of each operation -/

variable {conduct : Option Conduct}

/-- Without a database there is nothing to go on for, whatever the statement is; only an update
    looks at its statement first. -/
theorem offline_refuses (offline : r.connection.isOffline = true) :
    let unavailable := Failure.execution (.connectionUnavailable (some r.connection.url))
    (r.perform (.query statement visitors)).Refuses unavailable ∧
    (r.perform (.execute statement visitors)).Refuses unavailable ∧
    (r.perform (.executeChange statement visitors)).Refuses unavailable ∧
    (r.perform (.call statement conduct visitors)).Refuses unavailable ∧
    (statement.isCall = false →
      (r.perform (.update statement visitors)).Refuses unavailable) := by
  have failure := offlineFailure?_of_offline offline
  refine ⟨perform_refuses ?_, perform_refuses ?_, perform_refuses ?_, perform_refuses ?_,
    fun other => perform_refuses ?_⟩
  · rw [preflight?, failure, Option.some_or]
  · cases statement <;> rw [preflight?, failure, Option.some_or]
  · rw [preflight?, failure, Option.some_or]
  · rw [preflight?, failure, Option.some_or]
  · rw [preflight?, updateRefusal?_of_not_isCall other, Option.none_or, failure, Option.some_or]

/-- What takes one string refuses a statement that has no one string, in the words of its own. -/
theorem single_refuses (failure : String → Failure) (online : r.connection.isOffline = false)
    (h : ∀ operation, Rendering.renderSingle r.dialect visitors operation statement =
      .error (failure operation)) :
    (r.perform (.query statement visitors)).Refuses (failure "query") ∧
    (statement.isCall = false →
      (r.perform (.update statement visitors)).Refuses (failure "update")) := by
  have single (operation : String) :
      r.offlineFailure?.or (r.singleFailure? statement visitors operation) =
        some (failure operation) := by
    rw [offlineFailure?_of_online online, Option.none_or, singleFailure?, h operation]
  refine ⟨perform_refuses (single "query"), fun other => perform_refuses ?_⟩
  rw [preflight?, updateRefusal?_of_not_isCall other, Option.none_or]
  exact single "update"

theorem several_refuses {strings : List String} (online : r.connection.isOffline = false)
    (rendered : Rendering.render r.dialect visitors statement = .ok strings)
    (several : strings.length ≠ 1) :
    (r.perform (.query statement visitors)).Refuses
      (.execution (.multiStatement strings "query")) ∧
    (r.perform (.update statement visitors)).Refuses
      (.execution (.multiStatement strings "update")) := by
  have other : statement.isCall = false := by
    cases call : statement.isCall with
    | false => rfl
    | true => exact absurd (Statement.length_of_isCall call rendered) several
  obtain ⟨query, update⟩ := single_refuses
    (fun operation => .execution (.multiStatement strings operation)) online
    fun operation => Rendering.renderSingle_of_several rendered several
  exact ⟨query, update other⟩

/-- What cannot be rendered is refused by whoever renders it before asking for a handle. -/
theorem unrenderable_refuses {fault : Fault} (online : r.connection.isOffline = false)
    (h : Rendering.render r.dialect visitors statement = .error fault) :
    (r.perform (.query statement visitors)).Refuses (.fault fault) ∧
    (statement.isCall = false →
      (r.perform (.update statement visitors)).Refuses (.fault fault)) ∧
    (r.perform (.call statement conduct visitors)).Refuses (.fault fault) ∧
    (∀ command, statement = .command command → command.isSelfExecuting = false →
      (r.perform (.execute statement visitors)).Refuses (.fault fault)) := by
  obtain ⟨query, update⟩ := single_refuses (fun _ => .fault fault) online
    fun operation => Rendering.renderSingle_of_error h
  refine ⟨query, update, perform_refuses ?_, ?_⟩
  · rw [preflight?, offlineFailure?_of_online online, Option.none_or, callFailure?, h]
  · rintro command rfl rendered
    refine perform_refuses ?_
    rw [preflight?, offlineFailure?_of_online online, Option.none_or, rendered,
      if_neg Bool.false_ne_true, h, faultOf?]

theorem nothingToCall_refuses (online : r.connection.isOffline = false)
    (h : Rendering.render r.dialect visitors statement = .ok []) :
    (r.perform (.call statement conduct visitors)).Refuses nothingToCall := by
  refine perform_refuses ?_
  rw [preflight?, offlineFailure?_of_online online, Option.none_or, callFailure?, h]

/-- **What is found out before a handle is asked for, and in which order.** The update of a call is
    refused, with a database or without. Without a database everything else is refused for want of
    one, whether or not the statement could be expanded and rendered. With one, a query and an
    update raise an error about the number of strings exactly when the statement renders to more or
    fewer than one, and it carries all of them and the name of the operation; a call of which
    nothing is rendered is unsupported; and the fault of a statement that cannot be rendered is
    raised as it is. Whenever an operation is refused so, it is refused in every world, and the
    world is left as it was: nothing is asked of the database, nothing is written down, and no event
    is reported. -/
theorem perform_preflight (r : Runner) (statement : Statement) (visitors : List Visitor)
    (conduct : Option Conduct) :
    let query := r.perform (.query statement visitors)
    let update := r.perform (.update statement visitors)
    let execute := r.perform (.execute statement visitors)
    let executeChange := r.perform (.executeChange statement visitors)
    let executeCallable := r.perform (.call statement conduct visitors)
    let rendered := Rendering.render r.dialect visitors statement
    let severalStrings := ∃ strings, rendered = .ok strings ∧ strings.length ≠ 1
    let unavailable := Failure.execution (.connectionUnavailable (some r.connection.url))
    (statement.isCall = true → update.Refuses (.execution (.unsupported
      "Direct update using a callable statement is not implemented" (some "update")))) ∧
    (r.connection.isOffline = true →
      query.Refuses unavailable ∧ execute.Refuses unavailable ∧
      executeChange.Refuses unavailable ∧ executeCallable.Refuses unavailable ∧
      (statement.isCall = false → update.Refuses unavailable)) ∧
    (r.connection.isOffline = false →
      (∀ strings, rendered = .ok strings → strings.length ≠ 1 →
        query.Refuses (.execution (.multiStatement strings "query")) ∧
        update.Refuses (.execution (.multiStatement strings "update"))) ∧
      (∀ w, (query.EndsAs w .multiStatement ↔ severalStrings) ∧
        (update.EndsAs w .multiStatement ↔ severalStrings)) ∧
      (rendered = .ok [] → executeCallable.Refuses (.execution (.unsupported
        "Callable statement rendered to no SQL" (some "execute_callable")))) ∧
      (∀ fault, rendered = .error fault →
        query.Refuses (.fault fault) ∧
        (statement.isCall = false → update.Refuses (.fault fault)) ∧
        executeCallable.Refuses (.fault fault) ∧
        (∀ command, statement = .command command → command.isSelfExecuting = false →
          execute.Refuses (.fault fault)))) := by
  refine ⟨fun call => perform_refuses ?_, offline_refuses, fun online =>
    ⟨fun strings => several_refuses online, fun w => ⟨⟨query_endsAs_several, ?_⟩,
      ⟨update_endsAs_several, ?_⟩⟩, nothingToCall_refuses online,
      fun fault => unrenderable_refuses online⟩⟩
  · rw [preflight?, updateRefusal?_of_isCall call, Option.some_or]
  · rintro ⟨strings, rendered, several⟩
    exact (several_refuses online rendered several).1.endsAs w
  · rintro ⟨strings, rendered, several⟩
    exact (several_refuses online rendered several).2.endsAs w

/-- Two strings, where a query takes one. -/
theorem perform_preflight_two :
    let r : Runner := ⟨.scripted "fake://db" false, .sqlite⟩
    let statement := Statement.command (.raw "SELECT 1;\nSELECT 2;" ";" true)
    r.connection.isOffline = false ∧
    Rendering.render r.dialect [] statement = .ok ["SELECT 1", "SELECT 2"] ∧
    (r.perform (.query statement [])).Refuses
      (.execution (.multiStatement ["SELECT 1", "SELECT 2"] "query")) := by
  intro r statement
  have rendered : Rendering.render r.dialect [] statement = .ok ["SELECT 1", "SELECT 2"] := rfl
  obtain ⟨-, -, online⟩ := perform_preflight r statement [] none
  obtain ⟨several, -⟩ := online rfl
  exact ⟨rfl, rendered, (several ["SELECT 1", "SELECT 2"] rendered (by decide)).1⟩

end Runner

end SqlRunner
